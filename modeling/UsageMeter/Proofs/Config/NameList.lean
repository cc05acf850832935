import UsageMeter.Proofs.Config.Padding

/-!
Lists of names in variables. A text is cut at its commas, and the names are what the segments say
but for white space, each where it is said first. So blank segments and repetitions make no
difference.
-/
namespace UsageMeter.Config
open UsageMeter.Text

/-! ## First occurrences -/

section Firsts
variable {a : String} {xs ys : List String}

theorem mem_firsts_iff : a ∈ firsts xs ↔ a ∈ xs := by
  induction xs with
  | nil => rfl
  | cons x xs ih =>
    rw [firsts, List.mem_cons, List.mem_cons, List.mem_filter, ih]
    by_cases h : a = x
    · simp [h]
    · simp [h]

theorem filter_firsts (p : String → Bool) (xs : List String) :
    (firsts xs).filter p = firsts (xs.filter p) := by
  induction xs with
  | nil => rfl
  | cons x xs ih =>
    rw [firsts, List.filter_cons, List.filter_cons]
    by_cases hx : p x = true
    · rw [if_pos hx, if_pos hx, firsts, ← ih, List.filter_comm]
    · have hne : ∀ y, p y = true → y ≠ x := by
        rintro y hy rfl
        exact hx hy
      rw [if_neg hx, if_neg hx, ← ih, List.filter_filter]
      refine List.filter_congr fun y _ => ?_
      by_cases hy : p y = true
      · simp [hy, hne y hy]
      · simp [hy]

/-- A name that was there before changes nothing. -/
theorem firsts_append_cons (h : a ∈ xs) : firsts (xs ++ a :: ys) = firsts (xs ++ ys) := by
  induction xs with
  | nil => exact absurd h List.not_mem_nil
  | cons x xs ih =>
    rw [List.cons_append, List.cons_append, firsts, firsts]
    obtain rfl | hm := List.mem_cons.1 h
    · rw [filter_firsts, filter_firsts, List.filter_append, List.filter_append, List.filter_cons]
      simp
    · rw [ih hm]

theorem pairwise_firsts (xs : List String) :
    (firsts xs).Pairwise fun a b => xs.idxOf a < xs.idxOf b := by
  induction xs with
  | nil => exact List.Pairwise.nil
  | cons x xs ih =>
    have hlater : ∀ y, y ≠ x → (x :: xs).idxOf y = xs.idxOf y + 1 :=
      fun y hy => List.idxOf_cons_ne xs (Ne.symm hy)
    have hne : ∀ y ∈ (firsts xs).filter (· ≠ x), y ≠ x :=
      fun y hy => by simpa using (List.mem_filter.1 hy).2
    rw [firsts, List.pairwise_cons]
    refine ⟨fun y hy => ?_, (ih.filter _).imp_of_mem fun {a b} ha hb hab => ?_⟩
    · rw [List.idxOf_cons_self, hlater y (hne y hy)]
      exact Nat.succ_pos _
    · rw [hlater a (hne a ha), hlater b (hne b hb)]
      exact Nat.succ_lt_succ hab

end Firsts

/-! ## Segments -/

/-- The pieces between the commas of a text. -/
structure Cut (text : String) (pieces : List String) : Prop where
  joined : String.intercalate "," pieces = text
  nonempty : pieces ≠ []
  no_comma : ∀ piece ∈ pieces, ',' ∉ piece.toList

/-- What the pieces of a text say, but for white space. -/
def said (pieces : List String) : List String :=
  (pieces.map trim).filter (· ≠ "")

section Segments
variable {text : String} {pieces before after : List String} {piece : String}

theorem exists_cut (text : String) : ∃ pieces, Cut text pieces := by
  have hpieces : ((splitOn ',' text.toList).map String.ofList).map String.toList =
      splitOn ',' text.toList := by
    rw [List.map_map]
    exact (List.map_congr_left fun cs _ => String.toList_ofList).trans (List.map_id _)
  refine ⟨(splitOn ',' text.toList).map String.ofList, ?_, ?_, ?_⟩
  · rw [← String.toList_inj, toList_intercalate_comma, hpieces, splitOn_eq_list_splitOn]
    exact List.intercalate_splitOn ','
  · simpa using splitOn_ne_nil ',' text.toList
  · intro piece hp
    have hm : piece.toList ∈ splitOn ',' text.toList := hpieces ▸ List.mem_map_of_mem hp
    exact not_mem_of_mem_splitOn hm

theorem segments_eq_said (h : Cut text pieces) : segments text = said pieces := by
  have hcommas : ∀ cs ∈ pieces.map String.toList, ',' ∉ cs := by
    intro cs hcs
    obtain ⟨piece, hp, rfl⟩ := List.mem_map.1 hcs
    exact h.no_comma piece hp
  have htrim : (fun cs => trim (String.ofList cs)) ∘ String.toList = trim := by
    funext s
    simp
  rw [segments, said, ← h.joined, toList_intercalate_comma,
    splitOn_intercalate hcommas (by simpa using h.nonempty), List.map_map, htrim]

theorem segments_trim (text : String) : segments (trim text) = segments text := by
  have hcomma : isBlank ',' = false := by decide
  have hpieces := map_strip_splitOn_strip hcomma text.toList
  have htrim : (fun cs => trim (String.ofList cs)) = String.ofList ∘ strip isBlank := by
    funext cs
    simp [trim]
  rw [segments, segments, htrim, ← List.map_map, ← List.map_map, trim, String.toList_ofList,
    hpieces]

theorem nameList_eq {env : Environment} {v : Variable} (h : env v.name = some text) :
    env.nameList v = firsts (segments text) := by
  rw [Environment.nameList]
  cases ht : env.text? v with
  | none =>
    have hblank : trim text = "" := by
      rw [← isBlankText_eq_true_iff, isBlankText, List.all_eq_true]
      exact text?_eq_none_iff.1 ht text h
    rw [← segments_trim, hblank]
    rfl
  | some s =>
    obtain ⟨-, text', htext', rfl⟩ := text?_eq_some_iff.1 ht
    cases h.symm.trans htext'
    exact congrArg firsts (segments_trim text)

/-- A piece that says nothing, or what an earlier piece says, could as well not be there. -/
theorem firsts_said_insert
    (h : trim piece = "" ∨ ∃ earlier ∈ before, trim earlier = trim piece) :
    firsts (said (before ++ piece :: after)) = firsts (said (before ++ after)) := by
  rw [said, said, List.map_append, List.map_append, List.map_cons, List.filter_append,
    List.filter_append, List.filter_cons]
  by_cases hblank : trim piece = ""
  · simp [hblank]
  · obtain ⟨earlier, he, hsame⟩ := h.resolve_left hblank
    have hm : trim piece ∈ (before.map trim).filter (· ≠ "") := by
      rw [List.mem_filter, ← hsame]
      exact ⟨List.mem_map_of_mem he, by simpa [hsame] using hblank⟩
    rw [if_pos (by simpa using hblank), firsts_append_cons hm]

theorem Cut.insert (h : Cut text (before ++ after)) (hp : ',' ∉ piece.toList) :
    Cut (String.intercalate "," (before ++ piece :: after)) (before ++ piece :: after) := by
  refine ⟨rfl, by simp, fun p hm => ?_⟩
  obtain hm | hm := List.mem_append.1 hm
  · exact h.no_comma p (List.mem_append_left _ hm)
  · obtain rfl | hm := List.mem_cons.1 hm
    · exact hp
    · exact h.no_comma p (List.mem_append_right _ hm)

end Segments

/-! ## Settings -/

/-- The environment in which a variable has a text. -/
def Environment.set (env : Environment) (v : Variable) (text : String) : Environment :=
  fun name => if name = v.name then some text else env name

theorem set_name (env : Environment) (v : Variable) (text : String) :
    env.set v text v.name = some text :=
  if_pos rfl

theorem set_name_of_ne {env : Environment} {u v : Variable} {text : String} (h : u ≠ v) :
    env.set v text u.name = env u.name :=
  if_neg fun he => h (Variable.name_inj.1 he)

/-- Where reading succeeds, it does so with any text for the web applications, and no other setting
depends on that text. -/
theorem settings_set_webapps {env : Environment} {c : Settings} (h : env.settings = .ok c)
    (text : String) :
    (env.set .webapps text).settings = .ok { c with webapps := firsts (segments text) } := by
  obtain ⟨id, name, enabled, hid, hvalid, hname, hswitch, rfl⟩ := settings_eq_ok_iff.1 h
  have htext : ∀ u : Variable, u ≠ .webapps →
      (env.set .webapps text).text? u = env.text? u := by
    intro u hu
    exact text?_congr (by rw [set_name_of_ne hu])
  have hs : (env.set .webapps text).switch = env.switch :=
    switch_congr (set_name_of_ne (by decide))
  refine settings_eq_ok_iff.2 ⟨id, name, enabled, (htext _ (by decide)).trans hid, hvalid,
    (htext _ (by decide)).trans hname, hs.trans hswitch, ?_⟩
  rw [Environment.settingsWith, Environment.settingsWith, nameList_eq (set_name env .webapps text),
    htext .productVersion (by decide), htext .productEdition (by decide),
    htext .databaseVendor (by decide), htext .databaseVersion (by decide),
    htext .server (by decide), htext .jdkVendor (by decide), htext .jdkVersion (by decide)]

/-- For every text of the web applications, in an environment that can be read otherwise: their
names are all that the pieces between its commas say, white space around them and blank pieces
apart, none of them twice, and in the order in which they are said first. So another piece makes no
difference if it is blank, or says what an earlier one says. -/
theorem webapps_said_first {env : Environment} {c : Settings} (h : env.settings = .ok c)
    (text : String) :
    (∃ pieces, Cut text pieces) ∧
    ∀ pieces, Cut text pieces →
      ∃ names, (env.set .webapps text).settings = .ok { c with webapps := names } ∧
        names.Nodup ∧
        (∀ name ∈ names, name ≠ "" ∧ trim name = name ∧ ',' ∉ name.toList) ∧
        (∀ name, name ∈ names ↔ name ≠ "" ∧ ∃ piece ∈ pieces, trim piece = name) ∧
        (names.Pairwise fun a b => (pieces.map trim).idxOf a < (pieces.map trim).idxOf b) ∧
        ∀ before piece after, pieces = before ++ after → ',' ∉ piece.toList →
          (isBlankText piece = true ∨ ∃ earlier ∈ before, trim earlier = trim piece) →
          (env.set .webapps (String.intercalate "," (before ++ piece :: after))).settings =
            (env.set .webapps text).settings := by
  refine ⟨exists_cut text, fun pieces hcut => ?_⟩
  have hsaid : segments text = said pieces := segments_eq_said hcut
  have hsettings := settings_set_webapps h text
  refine ⟨firsts (segments text), hsettings, nodup_firsts _, ?_, ?_, ?_, ?_⟩
  · intro name hm
    obtain ⟨htrimmed, hcomma⟩ := segment_of_mem_segments (mem_firsts_iff.1 hm)
    exact ⟨htrimmed.1, htrimmed.trim_eq, hcomma⟩
  · intro name
    rw [mem_firsts_iff, hsaid, said, List.mem_filter, List.mem_map]
    simp [and_comm]
  · rw [hsaid, said, ← filter_firsts]
    exact (pairwise_firsts _).filter _
  · rintro before piece after rfl hcomma hidle
    rw [isBlankText_eq_true_iff] at hidle
    rw [hsettings, settings_set_webapps h, segments_eq_said (hcut.insert hcomma), hsaid,
      firsts_said_insert hidle]

theorem names_said_twice_listed_once :
    ∃ c, halfFilledEnvironment.settings = .ok c ∧
    Cut " shop ,\u2003,admin,shop" [" shop ", "\u2003", "admin", "shop"] ∧
    ∃ names, (halfFilledEnvironment.set .webapps " shop ,\u2003,admin,shop").settings =
        .ok { c with webapps := names } ∧
      "shop" ∈ names ∧ "admin" ∈ names ∧ "" ∉ names ∧ names.Nodup ∧
      (halfFilledEnvironment.set .webapps " shop ,\u2003,admin,\tshop ,shop").settings =
        .ok { c with webapps := names } := by
  have hc : halfFilledEnvironment.settings = .ok ⟨"12345678-1234-1234-1234-123456789abc", "Engine",
      "", "community", "", "", none, "", "", false, []⟩ := by
    rfl
  have hcut : Cut " shop ,\u2003,admin,shop" [" shop ", "\u2003", "admin", "shop"] :=
    ⟨by decide, by decide, by decide⟩
  obtain ⟨-, hall⟩ := webapps_said_first hc " shop ,\u2003,admin,shop"
  obtain ⟨names, hnames, hdistinct, -, hmem, -, hidle⟩ := hall _ hcut
  have hagain := hidle [" shop ", "\u2003", "admin"] "\tshop " ["shop"] rfl (by decide)
    (Or.inr ⟨" shop ", by decide, by decide⟩)
  have hempty : "" ∉ names := fun hm => ((hmem "").1 hm).1 rfl
  exact ⟨_, hc, hcut, names, hnames, (hmem "shop").2 ⟨by decide, " shop ", by decide, by decide⟩,
    (hmem "admin").2 ⟨by decide, "admin", by decide, by decide⟩, hempty, hdistinct,
    hagain.trans hnames⟩

end UsageMeter.Config
