import UsageMeter.Proofs.Config.Loading

/-!
Loading several files. A file that holds two texts, one after the other, does what a file of each
does in turn, and a file that was loaded can be loaded again without changing anything.
-/
namespace UsageMeter.Config
open UsageMeter.Text

/-! ## One text after the other -/

/-- A feed between two texts adds at most an empty line, which is skipped. -/
theorem loadLines_append_feed {cs : List Char} (h : '\r' ∉ cs) (ds : List Char) (t : Target)
    (override : Bool) (env : Table String) :
    loadLines t override (splitLines (cs ++ '\n' :: ds)) env =
      loadLines t override (splitLines cs ++ splitLines ds) env := by
  obtain ⟨gap, hgap, he⟩ := splitLines_append_feed h ds
  have hskip : ∀ env, loadLines t override (gap ++ splitLines ds) env =
      loadLines t override (splitLines ds) env := by
    intro env
    obtain rfl | rfl := hgap
    · rfl
    · rfl
  rw [he, List.append_assoc, loadLines_append_lines, loadLines_append_lines]
  simp only [hskip]

/-! ## Loading again -/

variable {t : Target} {override : Bool} {env env' : Table String}

/-- An assignment that was carried out with overriding was taken by the target. -/
theorem check_of_setVariable {key value : String}
    (h : setVariable t true env key value = .ok env') : t.check key value = .ok () := by
  rw [setVariable, if_neg (by simp)] at h
  cases hc : t.check key value with
  | ok _ => rfl
  | error e =>
    rw [hc] at h
    cases h

theorem setVariable_eq_ok {key value : String}
    (h : setVariable t override env key value = .ok env') :
    env' = assign override env (key, value) := by
  rw [setVariable] at h
  rw [assign]
  split at h
  · next hc =>
    rw [if_pos hc]
    cases h
    rfl
  · next hc =>
    rw [if_neg hc]
    cases hk : t.check key value with
    | ok _ =>
      rw [hk] at h
      cases h
      rfl
    | error e =>
      rw [hk] at h
      cases h

/-- What a load that succeeded has done, and what it shows of its lines. -/
theorem exists_of_loadLines_eq_ok {lines : List (List Char)}
    (h : (loadLines t override lines env).2 = .ok ()) :
    (loadLines t override lines env).1 = (assignments lines).foldl (assign override) env ∧
      (∀ line ∈ lines, ¬Unusable line) ∧
      (override = true → ∀ a ∈ assignments lines, t.check a.1 a.2 = .ok ()) := by
  induction lines generalizing env with
  | nil => exact ⟨rfl, by simp, fun _ a ha => by simp [assignments] at ha⟩
  | cons line lines ih =>
    rw [assignments_cons]
    rw [loadLines] at h ⊢
    obtain ⟨-, hr⟩ | ⟨-, hr⟩ | ⟨hl, key, value, hr⟩ := Line.read_cases line
    · have hnone : assigned? line = none := by rw [assigned?, hr]
      have hl : ¬Unusable line := by simp [← Line.read_eq_malformed_iff, hr]
      simp only [hr] at h ⊢
      obtain ⟨hload, hu, hc⟩ := ih h
      rw [hnone]
      exact ⟨hload, List.forall_mem_cons.2 ⟨hl, hu⟩, hc⟩
    · simp only [hr] at h
      cases h
    · have hsome : assigned? line = some (key, value) := by rw [assigned?, hr]
      simp only [hr] at h ⊢
      cases hs : setVariable t override env key value with
      | error e =>
        simp only [hs] at h
        cases h
      | ok env' =>
        simp only [hs] at h ⊢
        obtain ⟨hload, hu, hc⟩ := ih h
        rw [hsome, hload, setVariable_eq_ok hs]
        refine ⟨rfl, List.forall_mem_cons.2 ⟨hl, hu⟩, ?_⟩
        rintro rfl
        exact List.forall_mem_cons.2 ⟨check_of_setVariable hs, hc rfl⟩

/-- Assignments that were carried out change nothing when they are carried out again: every name
is there, and each keeps or gets back the value that it ended with. -/
theorem foldl_assign_twice (override : Bool) (env : Table String)
    (made : List (String × String)) :
    let once := made.foldl (assign override) env
    (∀ a ∈ made, a.1 ∈ once.names) ∧ made.foldl (assign override) once = once := by
  intro once
  have hnames : once.names =
      env.names ++ ((made.map Prod.fst).removeAll env.names).eraseDups :=
    names_foldl_assign override env made
  have hthere : ∀ name ∈ made.map Prod.fst, name ∈ once.names := by
    intro name hm
    rw [hnames, List.mem_append, List.mem_eraseDups]
    by_cases hn : name ∈ env.names
    · exact Or.inl hn
    · exact Or.inr (by simp [List.removeAll, hm, hn])
  refine ⟨fun a ha => hthere a.1 (List.mem_map_of_mem ha), Table.ext_get? ?_ ?_⟩
  · have hnone : (made.map Prod.fst).removeAll once.names = [] := by
      simpa [List.removeAll] using hthere
    rw [names_foldl_assign, hnone]
    exact List.append_nil _
  · intro name
    have hvalue : once.get? name = valueAfter override (env.get? name) made name :=
      get?_foldl_assign override env made name
    rw [get?_foldl_assign, hvalue]
    cases override with
    | true =>
      simp only [valueAfter, if_true]
      cases made.reverse.lookup name <;> simp
    | false =>
      simp only [valueAfter, Bool.false_eq_true, if_false]
      cases env.get? name <;> cases made.lookup name <;> simp

theorem loadLines_again {lines : List (List Char)}
    (h : (loadLines t override lines env).2 = .ok ()) :
    let out := (loadLines t override lines env).1
    loadLines t override lines out = (out, .ok ()) := by
  intro out
  obtain ⟨hload, hu, hc⟩ := exists_of_loadLines_eq_ok h
  obtain ⟨hthere, hsame⟩ := foldl_assign_twice override env (assignments lines)
  have hout : out = (assignments lines).foldl (assign override) env := hload
  rw [← hout] at hthere hsame
  have hassignable : ∀ a ∈ assignments lines, Assignable t override out a := by
    intro a ha
    cases override with
    | true => exact Or.inr (hc rfl a ha)
    | false => exact Or.inl ⟨rfl, hthere a ha⟩
  rw [loadLines_of_assignable hu hassignable, hsame]

/-! ## Files -/

/-- A path leads to a file of a text, with line endings as line feeds. -/
def Folder.Holds (d : Folder) (path : Path) (text : String) : Prop :=
  ∃ bytes, d.find path = .file bytes ∧ decode? bytes = some text

theorem not_mem_of_holds {d : Folder} {path : Path} {text : String} (h : d.Holds path text) :
    '\r' ∉ text.toList := by
  obtain ⟨bytes, -, hd⟩ := h
  obtain ⟨s, -, rfl⟩ := Option.map_eq_some_iff.1 hd
  rw [String.toList_ofList]
  exact return_not_mem_universalNewlines s.toList

theorem loadFile_of_holds {d : Folder} {path : Path} {text : String} (h : d.Holds path text)
    (t : Target) (override : Bool) (env : Table String) :
    loadFile d path t override env =
      ((loadLines t override (splitLines text.toList) env).1,
        LoadError.ofLine path (loadLines t override (splitLines text.toList) env).2) := by
  obtain ⟨bytes, hf, hd⟩ := h
  simp only [loadFile, hf, hd, loadText]

theorem holds_of_loadFile_eq_ok {d : Folder} {path : Path}
    (h : (loadFile d path t override env).2 = .ok ()) : ∃ text, d.Holds path text := by
  rw [loadFile] at h
  cases hf : d.find path with
  | missing | tooLong | folder =>
    simp only [hf] at h
    cases h
  | file bytes =>
    cases hd : decode? bytes with
    | none =>
      simp only [hf, hd] at h
      cases h
    | some text => exact ⟨text, bytes, hf, hd⟩

/-- For every target and every mapping, a file of two texts with a line feed between them does what
a file of the first text does and then, unless that fails, a file of the second one, with the same
variables in the same order and the same success or failure; and a file that was loaded can be
loaded again into what it left, which succeeds and changes neither values nor order. -/
theorem loading_composes_and_repeats (path : Path) (t : Target) (override : Bool)
    (env : Table String) :
    (∀ (whole first second : Folder) (a b : String), first.Holds path a → second.Holds path b →
      whole.Holds path (a ++ "\n" ++ b) →
        loadFile whole path t override env =
          match loadFile first path t override env with
          | (env', .ok _) => loadFile second path t override env'
          | failed => failed) ∧
    ∀ d : Folder, (loadFile d path t override env).2 = .ok () →
      let out := (loadFile d path t override env).1
      loadFile d path t override out = (out, .ok ()) := by
  refine ⟨?_, ?_⟩
  · intro whole first second a b ha hb hab
    have htext : (a ++ "\n" ++ b).toList = a.toList ++ '\n' :: b.toList := by simp
    rw [loadFile_of_holds hab, loadFile_of_holds ha, htext,
      loadLines_append_feed (not_mem_of_holds ha), loadLines_append_lines]
    generalize loadLines t override (splitLines a.toList) env = out
    obtain ⟨env', e | _⟩ := out
    · rfl
    · exact (loadFile_of_holds hb t override env').symm
  · intro d h out
    obtain ⟨text, hd⟩ := holds_of_loadFile_eq_ok h
    rw [loadFile_of_holds hd] at h
    have hok : (loadLines t override (splitLines text.toList) env).2 = .ok () := by
      cases hl : (loadLines t override (splitLines text.toList) env).2 with
      | ok _ => rfl
      | error e =>
        simp only [hl] at h
        cases h
    have hout : out = (loadLines t override (splitLines text.toList) env).1 := by
      simp only [out, loadFile_of_holds hd]
    rw [loadFile_of_holds hd, hout, loadLines_again hok]
    rfl

theorem halves_loaded_in_turn :
    let path := Path.ofString ".env"
    let env := Table.ofList [("C", "0")]
    let first := folderOf "A=1\r\nA=2"
    let second := folderOf "export B='3'\nA=4"
    let whole := folderOf "A=1\nA=2\nexport B='3'\nA=4"
    let half := (loadFile first path .process true env).1
    let out := loadFile whole path .process true env
    out = loadFile second path .process true half ∧ out.2 = .ok () ∧
      out.1.names = ["C", "A", "B"] ∧ out.1.get? "A" = some "4" ∧
      loadFile whole path .process true out.1 = (out.1, .ok ()) := by
  intro path env first second whole half out
  have hfirst : first.Holds path "A=1\nA=2" :=
    ⟨_, find_folderOf _, (decode?_toUTF8 _).trans (congrArg some (by decide))⟩
  have hsecond : second.Holds path "export B='3'\nA=4" :=
    ⟨_, find_folderOf _, (decode?_toUTF8 _).trans (congrArg some (by decide))⟩
  have hwhole : whole.Holds path ("A=1\nA=2" ++ "\n" ++ "export B='3'\nA=4") :=
    ⟨_, find_folderOf _, (decode?_toUTF8 _).trans (congrArg some (by decide))⟩
  obtain ⟨hcomposes, hrepeats⟩ := loading_composes_and_repeats path .process true env
  have hout := hcomposes whole first second _ _ hfirst hsecond hwhole
  have hhalf : loadFile first path .process true env = (half, .ok ()) := by
    refine Prod.ext rfl ?_
    rw [loadFile_of_holds hfirst]
    decide
  rw [hhalf] at hout
  have hok : out.2 = .ok () := by
    simp only [out, loadFile_of_holds hwhole]
    decide
  refine ⟨hout, hok, ?_, ?_, hrepeats whole hok⟩
  · simp only [out, loadFile_of_holds hwhole]
    decide
  · simp only [out, loadFile_of_holds hwhole]
    decide

end UsageMeter.Config
