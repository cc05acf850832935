import UsageMeter.Config.Dotenv
import UsageMeter.Proofs.Listing
import UsageMeter.Proofs.Text.Lines
import UsageMeter.Proofs.Text.Strip

/-!
Loading a file of assignments. A line is skipped, unusable or an assignment; loading carries out the
assignments before the first unusable line, in order, each by its effect on one name.
-/
namespace UsageMeter.Config
open UsageMeter.Text

/-! ## Lines -/

def Blank (line : List Char) : Prop :=
  ∀ c ∈ line, isBlank c = true

/-- A hash sign comes first, or first after white space. -/
def Comment (line : List Char) : Prop :=
  ∃ gap rest, (∀ c ∈ gap, isBlank c = true) ∧ line = gap ++ '#' :: rest

/-- A line that says something, without an equals sign. -/
def Unusable (line : List Char) : Prop :=
  ¬Blank line ∧ ¬Comment line ∧ '=' ∉ line

theorem strip_blank_eq_nil_iff {line : List Char} : strip isBlank line = [] ↔ Blank line :=
  strip_eq_nil_iff

theorem strip_blank_eq_hash_iff {line : List Char} :
    (∃ rest, strip isBlank line = '#' :: rest) ↔ Comment line := by
  have hash : isBlank '#' = false := by decide
  constructor
  · rintro ⟨rest, hr⟩
    obtain ⟨more, hm⟩ := prefix_strip isBlank line
    refine ⟨line.takeWhile isBlank, rest ++ more, fun c => List.mem_takeWhile_imp, ?_⟩
    have hd : line.dropWhile isBlank = '#' :: (rest ++ more) := by
      rw [hr] at hm
      exact hm.symm
    rw [← hd, List.takeWhile_append_dropWhile]
  · rintro ⟨gap, rest, hg, rfl⟩
    refine ⟨stripEnd isBlank rest, ?_⟩
    rw [strip, stripStart_append_of_all hg, stripStart,
      List.dropWhile_cons_of_neg (by simp [hash]), stripEnd_cons hash]

theorem equals_mem_afterExport_iff {cs : List Char} : '=' ∈ afterExport cs ↔ '=' ∈ cs := by
  unfold afterExport
  split
  · next h =>
    obtain ⟨rest, rfl⟩ := List.isPrefixOf_iff_prefix.1 h
    have hd : ("export ".toList ++ rest).drop 7 = rest := rfl
    rw [hd, mem_stripStart_iff (by decide), List.mem_append]
    simp
  · rfl

theorem readAssignment_cases (cs : List Char) :
    ('=' ∉ cs ∧ readAssignment cs = .malformed) ∨
      ('=' ∈ cs ∧ ∃ key value, readAssignment cs = .assignment key value) := by
  unfold readAssignment
  by_cases h : '=' ∈ cs
  · exact Or.inr ⟨h, _, _, if_pos (by simpa using h)⟩
  · exact Or.inl ⟨h, if_neg (by simpa using h)⟩

theorem Line.read_of_strip {line : List Char} {c : Char} {rest : List Char}
    (h : strip isBlank line = c :: rest) (hc : c ≠ '#') :
    Line.read line = readAssignment (afterExport (c :: rest)) := by
  unfold Line.read
  split
  · next he => simp [he] at h
  · next he =>
    rw [he] at h
    cases h
    exact absurd rfl hc
  · rw [h]

theorem Line.read_of_blank_or_comment {line : List Char} (h : Blank line ∨ Comment line) :
    Line.read line = .skipped := by
  cases h with
  | inl hb => simp [Line.read, strip_blank_eq_nil_iff.2 hb]
  | inr hc =>
    obtain ⟨rest, hr⟩ := strip_blank_eq_hash_iff.2 hc
    simp [Line.read, hr]

/-- What a line can be: without meaning, without use, or an assignment. -/
theorem Line.read_cases (line : List Char) :
    ((Blank line ∨ Comment line) ∧ Line.read line = .skipped) ∨
    (Unusable line ∧ Line.read line = .malformed) ∨
    (¬Unusable line ∧ ∃ key value, Line.read line = .assignment key value) := by
  have heq : '=' ∈ strip isBlank line ↔ '=' ∈ line := mem_strip_iff (by decide)
  cases hs : strip isBlank line with
  | nil =>
    have hm : Blank line ∨ Comment line := Or.inl (strip_blank_eq_nil_iff.1 hs)
    exact Or.inl ⟨hm, Line.read_of_blank_or_comment hm⟩
  | cons c rest =>
    by_cases hc : c = '#'
    · subst hc
      have hm : Blank line ∨ Comment line := Or.inr (strip_blank_eq_hash_iff.1 ⟨rest, hs⟩)
      exact Or.inl ⟨hm, Line.read_of_blank_or_comment hm⟩
    · have hblank : ¬Blank line := fun hb => by simp [strip_blank_eq_nil_iff.2 hb] at hs
      have hcomment : ¬Comment line := by
        intro hm
        obtain ⟨more, hm⟩ := strip_blank_eq_hash_iff.2 hm
        rw [hs] at hm
        exact hc (List.cons.inj hm).1
      rw [Line.read_of_strip hs hc]
      rw [hs, ← equals_mem_afterExport_iff] at heq
      obtain ⟨hno, hr⟩ | ⟨hin, hr⟩ := readAssignment_cases (afterExport (c :: rest))
      · exact Or.inr (Or.inl ⟨⟨hblank, hcomment, fun h => hno (heq.2 h)⟩, hr⟩)
      · exact Or.inr (Or.inr ⟨fun hu => hu.2.2 (heq.1 hin), hr⟩)

theorem Line.read_eq_malformed_iff {line : List Char} :
    Line.read line = .malformed ↔ Unusable line := by
  obtain ⟨hs, hr⟩ | ⟨hu, hr⟩ | ⟨hu, key, value, hr⟩ := Line.read_cases line
  · have hn : ¬Unusable line := fun hu => hs.elim hu.1 hu.2.1
    simp [hr, hn]
  · simp [hr, hu]
  · simp [hr, hu]

instance : DecidablePred Unusable :=
  fun _ => decidable_of_iff _ Line.read_eq_malformed_iff

/-- The name and the value that a line assigns, if it does. -/
def assigned? (line : List Char) : Option (String × String) :=
  match Line.read line with
  | .assignment key value => some (key, value)
  | _ => none

/-- What some lines assign, in order. -/
def assignments (lines : List (List Char)) : List (String × String) :=
  lines.filterMap assigned?

/-! ## Assignments -/

/-- One assignment; without overriding, a name that is there keeps its value. -/
def assign (override : Bool) (env : Table String) (a : String × String) : Table String :=
  if env.contains a.1 && !override then env else env.insert a.1 a.2

/-- What a name is worth after some assignments: the last one counts when they override, and
otherwise what was there, or else the first one. -/
def valueAfter (override : Bool) (initial : Option String) (made : List (String × String))
    (name : String) : Option String :=
  if override then (made.reverse.lookup name).or initial else initial.or (made.lookup name)

theorem names_assign (override : Bool) (env : Table String) (a : String × String) :
    (assign override env a).names = enlist env.names a.1 := by
  unfold assign
  split
  · next h =>
    have hm : a.1 ∈ env.names := Table.contains_iff.1 (Bool.and_eq_true_iff.1 h).1
    rw [enlist, if_pos hm]
  · exact env.names_insert a.1 a.2

theorem get?_assign_override (env : Table String) (a : String × String) (name : String) :
    (assign true env a).get? name = if name = a.1 then some a.2 else env.get? name := by
  rw [assign, if_neg (by simp)]
  exact env.get?_insert a.1 a.2 name

theorem get?_assign_keep (env : Table String) (a : String × String) (name : String) :
    (assign false env a).get? name =
      (env.get? name).or (if name = a.1 then some a.2 else none) := by
  cases hc : env.contains a.1 with
  | true =>
    rw [assign, if_pos (by simp [hc])]
    by_cases hn : name = a.1
    · obtain ⟨v, hv⟩ := Option.ne_none_iff_exists'.1 fun hnone =>
        Table.get?_eq_none_iff.1 hnone (Table.contains_iff.1 hc)
      simp [hn, hv]
    · simp [hn]
  | false =>
    rw [assign, if_neg (by simp [hc]), Table.get?_insert]
    by_cases hn : name = a.1
    · have hnone : env.get? a.1 = none := by
        rw [Table.get?_eq_none_iff, ← Table.contains_iff, hc]
        simp
      simp [hn, hnone]
    · simp [hn]

theorem names_foldl_assign (override : Bool) (env : Table String)
    (made : List (String × String)) :
    (made.foldl (assign override) env).names =
      env.names ++ ((made.map Prod.fst).removeAll env.names).eraseDups := by
  have hdups : env.names.eraseDups = env.names := eraseDups_of_nodup env.nodup
  -- The names that are there count as called first, so every name goes to its first call.
  have hall : (made.foldl (assign override) env).names =
      (env.names ++ made.map Prod.fst).eraseDups := by
    induction made using List.reverseRecOn with
    | nil => simpa using hdups.symm
    | append_singleton made a ih =>
      rw [List.foldl_append, List.map_append, ← List.append_assoc]
      refine (names_assign override _ a).trans ?_
      rw [ih]
      exact (eraseDups_concat _ a.1).symm
  rw [hall, List.eraseDups_append, hdups]

theorem get?_foldl_assign (override : Bool) (env : Table String)
    (made : List (String × String)) (name : String) :
    (made.foldl (assign override) env).get? name =
      valueAfter override (env.get? name) made name := by
  induction made using List.reverseRecOn with
  | nil => cases override <;> simp [valueAfter]
  | append_singleton made a ih =>
    rw [List.foldl_append]
    cases override with
    | true =>
      refine (get?_assign_override _ a name).trans ?_
      rw [ih]
      by_cases hn : name = a.1
      · simp [valueAfter, lookup_cons_ite, hn]
      · simp [valueAfter, lookup_cons_ite, hn]
    | false =>
      refine (get?_assign_keep _ a name).trans ?_
      rw [ih]
      simp [valueAfter, lookup_cons_ite, List.lookup_append, Option.or_assoc]

/-! ## Loading -/

/-- An assignment can be carried out: the name keeps its value, or the target takes the new one. -/
def Assignable (t : Target) (override : Bool) (env : Table String) (a : String × String) : Prop :=
  (override = false ∧ a.1 ∈ env.names) ∨ t.check a.1 a.2 = .ok ()

section Carrying
variable {t : Target} {override : Bool} {env : Table String}

theorem setVariable_of_assignable {a : String × String} (h : Assignable t override env a) :
    setVariable t override env a.1 a.2 = .ok (assign override env a) := by
  rw [setVariable, assign]
  split
  · rfl
  · next hn =>
    obtain ⟨ho, hm⟩ | hc := h
    · simp [ho, Table.contains_iff.2 hm] at hn
    · rw [hc]
      rfl

theorem Assignable.assign {a : String × String} (h : Assignable t override env a)
    (b : String × String) : Assignable t override (Config.assign override env b) a := by
  obtain ⟨ho, hm⟩ | hc := h
  · refine Or.inl ⟨ho, ?_⟩
    rw [names_assign]
    exact mem_enlist_iff.2 (Or.inl hm)
  · exact Or.inr hc

theorem assignments_cons (line : List Char) (lines : List (List Char)) :
    assignments (line :: lines) = (assigned? line).toList ++ assignments lines := by
  rw [assignments, List.filterMap_cons]
  cases assigned? line <;> rfl

/-- Usable lines are carried out if all their assignments can be, since no name is ever lost. -/
theorem loadLines_of_assignable {lines : List (List Char)} (hu : ∀ line ∈ lines, ¬Unusable line)
    (ha : ∀ a ∈ assignments lines, Assignable t override env a) :
    loadLines t override lines env =
      ((assignments lines).foldl (assign override) env, .ok ()) := by
  induction lines generalizing env with
  | nil => rfl
  | cons line lines ih =>
    have hrest : ∀ l ∈ lines, ¬Unusable l := fun l hl => hu l (by simp [hl])
    rw [assignments_cons] at ha ⊢
    rw [loadLines]
    obtain ⟨-, hr⟩ | ⟨hbad, -⟩ | ⟨-, key, value, hr⟩ := Line.read_cases line
    · have hnone : assigned? line = none := by rw [assigned?, hr]
      rw [hnone] at ha ⊢
      simp only [hr]
      exact ih hrest ha
    · exact absurd hbad (hu line (by simp))
    · have hsome : assigned? line = some (key, value) := by rw [assigned?, hr]
      rw [hsome] at ha ⊢
      have hset := setVariable_of_assignable (ha (key, value) (by simp))
      simp only [hr, hset]
      exact ih hrest fun a hm => (ha a (by simp [hm])).assign (key, value)

end Carrying

/-- Loading goes on with more lines from what the lines before them leave, unless they fail. -/
theorem loadLines_append_lines (t : Target) (override : Bool) (lines more : List (List Char))
    (env : Table String) :
    loadLines t override (lines ++ more) env =
      match loadLines t override lines env with
      | (env', .ok _) => loadLines t override more env'
      | failed => failed := by
  induction lines generalizing env with
  | nil => rfl
  | cons line lines ih =>
    rw [List.cons_append, loadLines, loadLines]
    cases Line.read line with
    | skipped => exact ih env
    | malformed => rfl
    | assignment key value =>
      cases hs : setVariable t override env key value with
      | ok env' => simpa [hs] using ih env'
      | error e => simp [hs]

/-- A mapping takes every variable, so lines that are all usable are carried out. -/
theorem loadLines_of_usable {lines : List (List Char)} (h : ∀ line ∈ lines, ¬Unusable line)
    (override : Bool) (env : Table String) :
    loadLines .mapping override lines env =
      ((assignments lines).foldl (assign override) env, .ok ()) :=
  loadLines_of_assignable h fun _ _ => Or.inr rfl

/-- Lines that are all usable are carried out, and loading goes on from there. -/
theorem loadLines_append {before : List (List Char)} (override : Bool) (env : Table String)
    (h : ∀ line ∈ before, ¬Unusable line) (rest : List (List Char)) :
    loadLines .mapping override (before ++ rest) env =
      loadLines .mapping override rest ((assignments before).foldl (assign override) env) := by
  rw [loadLines_append_lines, loadLines_of_usable h]

theorem loadLines_unusable {line : List Char} (h : Unusable line) (override : Bool)
    (rest : List (List Char)) (env : Table String) :
    loadLines .mapping override (line :: rest) env =
      (env, .error (.malformed (String.ofList line))) := by
  rw [loadLines, Line.read_eq_malformed_iff.2 h]

/-! ## Files -/

theorem decode?_of_not_valid {bytes : ByteArray} (h : ¬bytes.IsValidUTF8) :
    decode? bytes = none := by
  have hn : String.fromUTF8? bytes = none := dif_neg h
  rw [decode?, hn]
  rfl

theorem decode?_toUTF8 (text : String) :
    decode? text.toUTF8 = some (String.ofList (universalNewlines text.toList)) := by
  have hs : String.fromUTF8? text.toUTF8 = some text := dif_pos text.isValidUTF8
  rw [decode?, hs]
  rfl

theorem loadFile_eq {d : Folder} {path : Path} {text : String}
    (h : d.find path = .file text.toUTF8) (t : Target) (override : Bool) (env : Table String) :
    loadFile d path t override env =
      ((loadLines t override (fileLines text.toList) env).1,
        LoadError.ofLine path (loadLines t override (fileLines text.toList) env).2) := by
  simp only [loadFile, h, decode?_toUTF8, loadText, String.toList_ofList, fileLines]

theorem loadFile_of_usable {d : Folder} {path : Path} {text : String}
    (h : d.find path = .file text.toUTF8)
    (hu : ∀ line ∈ fileLines text.toList, ¬Unusable line) (override : Bool)
    (env : Table String) :
    loadFile d path .mapping override env =
      ((assignments (fileLines text.toList)).foldl (assign override) env, .ok ()) := by
  rw [loadFile_eq h, loadLines_of_usable hu]
  rfl

theorem exists_first_unusable {lines : List (List Char)} (h : ∃ line ∈ lines, Unusable line) :
    ∃ before line after, lines = before ++ line :: after ∧
      (∀ l ∈ before, ¬Unusable l) ∧ Unusable line := by
  have hs : (lines.find? fun line => decide (Unusable line)).isSome = true := by
    simpa [List.find?_isSome] using h
  obtain ⟨line, hl⟩ := Option.isSome_iff_exists.1 hs
  obtain ⟨hu, before, after, he, hb⟩ := List.find?_eq_some_iff_append.1 hl
  exact ⟨before, line, after, he, by simpa using hb, by simpa using hu⟩

/-- What loading a file into a mapping of variables does. If there is no file, or its bytes are not
the UTF-8 form of a text, it fails and changes nothing. If every line can be used, it succeeds: the
names that were there keep their places, new ones follow in the order in which the lines first
assign them, and each is worth what `valueAfter` says. Else it fails with the first line that cannot
be used, and leaves what loading a file of just the lines before it leaves. -/
theorem loading_follows_lines (d : Folder) (path : Path) (override : Bool) (env : Table String) :
    let out := loadFile d path .mapping override env
    (d.find path = .missing → out = (env, .error (.notFound path))) ∧
    (∀ bytes, d.find path = .file bytes → ¬bytes.IsValidUTF8 → out = (env, .error .notText)) ∧
    ∀ text : String, d.find path = .file text.toUTF8 →
      let lines := fileLines text.toList
      ((∀ line ∈ lines, ¬Unusable line) →
        out.2 = .ok () ∧
        out.1.names = env.names ++
          (((assignments lines).map Prod.fst).removeAll env.names).eraseDups ∧
        ∀ name, out.1.get? name =
          valueAfter override (env.get? name) (assignments lines) name) ∧
      ((∃ line ∈ lines, Unusable line) →
        ∃ before line after, lines = before ++ line :: after ∧
          (∀ l ∈ before, ¬Unusable l) ∧ Unusable line ∧
          out.2 = .error (.line path (.malformed (String.ofList line))) ∧
          let prior := String.ofList (before.flatMap fun l => l ++ ['\n'])
          fileLines prior.toList = before ∧
          ∀ d' path', d'.find path' = .file prior.toUTF8 →
            loadFile d' path' .mapping override env = (out.1, .ok ())) := by
  intro out
  refine ⟨?_, ?_, ?_⟩
  · intro h
    simp only [out, loadFile, h]
  · intro bytes h hbytes
    simp only [out, loadFile, h, decode?_of_not_valid hbytes]
  · intro text h lines
    refine ⟨?_, ?_⟩
    · intro hu
      have hout : out = ((assignments lines).foldl (assign override) env, .ok ()) :=
        loadFile_of_usable h hu override env
      rw [hout]
      exact ⟨rfl, names_foldl_assign override env _, get?_foldl_assign override env _⟩
    · intro hex
      obtain ⟨before, line, after, hl, hb, hu⟩ := exists_first_unusable hex
      have hload : loadLines .mapping override lines env =
          ((assignments before).foldl (assign override) env,
            .error (.malformed (String.ofList line))) := by
        rw [hl, loadLines_append override env hb, loadLines_unusable hu]
      have hout : out = ((assignments before).foldl (assign override) env,
          .error (.line path (.malformed (String.ofList line)))) := by
        change loadFile d path .mapping override env = _
        rw [loadFile_eq h, hload]
        rfl
      have hone : ∀ l ∈ before, OneLine l := by
        intro l hm
        have hmem : l ∈ lines := by rw [hl]; simp [hm]
        exact oneLine_of_mem_splitLines hmem
      refine ⟨before, line, after, hl, hb, hu, by rw [hout], ?_⟩
      intro prior
      have hprior : fileLines prior.toList = before := by
        simp only [prior, String.toList_ofList]
        exact fileLines_flatMap_feed hone
      refine ⟨hprior, ?_⟩
      intro d' path' h'
      rw [loadFile_of_usable h' (by rwa [hprior]), hprior, hout]

/-- A folder with one file of assignments. -/
def folderOf (text : String) : Folder :=
  ⟨[(".env", text.toUTF8)]⟩

theorem find_folderOf (text : String) :
    (folderOf text).find (Path.ofString ".env") = .file text.toUTF8 := by
  have hp : Path.ofString ".env" = ⟨"", [".env"]⟩ := by decide
  have hw : (Path.mk "" [".env"]).written = ".env" := by decide
  rw [hp, Folder.find, hw]
  rw [if_neg (by decide), if_neg (by decide), if_pos rfl]
  rw [Folder.follow, if_neg (by decide), if_neg (by decide)]
  rfl

theorem repeated_keys_loaded :
    let d := folderOf "A=1\n# none\nB=2\nexport A = '3'"
    let path := Path.ofString ".env"
    let env := Table.ofList [("B", "0")]
    (loadFile d path .mapping false env).1.names = ["B", "A"] ∧
    (loadFile d path .mapping false env).1.get? "A" = some "1" ∧
    (loadFile d path .mapping false env).1.get? "B" = some "0" ∧
    (loadFile d path .mapping true env).1.get? "A" = some "3" ∧
    (loadFile d path .mapping true env).1.get? "B" = some "2" ∧
    ∃ line, (loadFile (folderOf "A=1\nwhat\nB=2") path .mapping true env).2 =
      .error (.line path (.malformed line)) := by
  intro d path env
  have hfind := find_folderOf
  have husable : ∀ line ∈ fileLines "A=1\n# none\nB=2\nexport A = '3'".toList, ¬Unusable line := by
    decide
  have hbad : ∃ line ∈ fileLines "A=1\nwhat\nB=2".toList, Unusable line := by decide
  obtain ⟨-, -, hkeep⟩ := loading_follows_lines d path false env
  obtain ⟨-, hnames, hkept⟩ := (hkeep _ (hfind _)).1 husable
  obtain ⟨-, -, hover⟩ := loading_follows_lines d path true env
  obtain ⟨-, -, hlast⟩ := (hover _ (hfind _)).1 husable
  obtain ⟨-, -, hfails⟩ := loading_follows_lines (folderOf "A=1\nwhat\nB=2") path true env
  obtain ⟨-, line, -, -, -, -, he, -⟩ := (hfails _ (hfind _)).2 hbad
  refine ⟨hnames.trans ?_, (hkept "A").trans ?_, (hkept "B").trans ?_, (hlast "A").trans ?_,
    (hlast "B").trans ?_, _, he⟩
  · decide
  · decide
  · decide
  · decide
  · decide

end UsageMeter.Config
