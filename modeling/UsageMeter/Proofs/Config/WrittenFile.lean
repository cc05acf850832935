import Mathlib.Data.List.Nodup
import UsageMeter.Proofs.Config.Loading

/-!
Files written from names and values, with any white space a line allows and any lines without
meaning between the assignments. Every name comes back; a value comes back unless a quote of either
kind stands at one of its ends.
-/
namespace UsageMeter.Config
open UsageMeter.Text

/-! ## Written lines -/

/-- White space within a line. -/
structure Gap where
  chars : List Char
  blank : ∀ c ∈ chars, isBlank c = true
  oneLine : OneLine chars

/-- No white space stands in the text. -/
def Solid (cs : List Char) : Prop :=
  ∀ c ∈ cs, isBlank c = false

instance : DecidablePred Solid :=
  fun cs => List.decidableBAll (fun c => isBlank c = false) cs

/-- A name that can be written: it neither opens a comment nor reads as the export word. -/
structure Key where
  name : String
  nonempty : name ≠ ""
  solid : Solid name.toList
  no_equals : '=' ∉ name.toList
  not_comment : name.toList.head? ≠ some '#'
  not_export : name ≠ "export"

/-- A value that can be written: it stays on its line. -/
structure WrittenValue where
  text : String
  oneLine : OneLine text.toList

structure WrittenAssignment where
  before : Gap
  exported : Option Gap
  key : Key
  behindKey : Gap
  beforeValue : Gap
  value : WrittenValue
  behind : Gap

namespace WrittenAssignment

/-- The value in double quotes. -/
def quoted (a : WrittenAssignment) : List Char :=
  '"' :: a.value.text.toList ++ ['"']

def named (a : WrittenAssignment) : List Char :=
  a.key.name.toList ++ (a.behindKey.chars ++ '=' :: (a.beforeValue.chars ++ a.quoted))

def exportWord (a : WrittenAssignment) : List Char :=
  match a.exported with
  | none => []
  | some gap => "export ".toList ++ gap.chars

def chars (a : WrittenAssignment) : List Char :=
  a.before.chars ++ (a.exportWord ++ a.named) ++ a.behind.chars

end WrittenAssignment

inductive WrittenLine where
  | assignment (a : WrittenAssignment)
  | blank (gap : Gap)
  | comment (gap : Gap) (rest : WrittenValue)

namespace WrittenLine

def chars : WrittenLine → List Char
  | assignment a => a.chars
  | blank gap => gap.chars
  | comment gap rest => gap.chars ++ '#' :: rest.text.toList

/-- The name and the value that were written. -/
def pair? : WrittenLine → Option (String × String)
  | assignment a => some (a.key.name, a.value.text)
  | _ => none

end WrittenLine

/-- Lines with their ends, and a last line without one, which may be empty. -/
structure WrittenFile where
  ended : List (WrittenLine × LineEnd)
  last : WrittenLine

namespace WrittenFile

def lines (f : WrittenFile) : List WrittenLine :=
  f.ended.map Prod.fst ++ [f.last]

def pairs (f : WrittenFile) : List (String × String) :=
  f.lines.filterMap WrittenLine.pair?

def text (f : WrittenFile) : String :=
  String.ofList (f.ended.flatMap (fun l => l.1.chars ++ l.2.chars) ++ f.last.chars)

end WrittenFile

/-! ## Quotes -/

def isQuote (c : Char) : Bool :=
  c == '"' || c == '\''

/-- What is left of a written value when it is loaded. -/
def loadedValue (value : String) : String :=
  String.ofList (strip (· == '\'') (strip (· == '"') value.toList))

theorem bare_isQuote_iff {cs : List Char} :
    Bare isQuote cs ↔ Bare (· == '"') cs ∧ Bare (· == '\'') cs := by
  simp only [Bare, isQuote, Bool.or_eq_false_iff]
  constructor
  · rintro ⟨hhead, hlast⟩
    exact ⟨⟨fun c hc => (hhead c hc).1, fun c hc => (hlast c hc).1⟩,
      fun c hc => (hhead c hc).2, fun c hc => (hlast c hc).2⟩
  · rintro ⟨⟨hhead, hlast⟩, hhead', hlast'⟩
    exact ⟨fun c hc => ⟨hhead c hc, hhead' c hc⟩, fun c hc => ⟨hlast c hc, hlast' c hc⟩⟩

/-- A value stays as it is exactly if no quote stands at either end. -/
theorem loadedValue_eq_self_iff {value : String} :
    loadedValue value = value ↔ Bare isQuote value.toList := by
  have hlist : loadedValue value = value ↔
      strip (· == '\'') (strip (· == '"') value.toList) = value.toList := by
    rw [loadedValue, ← String.toList_inj, String.toList_ofList]
  rw [hlist, bare_isQuote_iff]
  constructor
  · intro h
    have hle : value.toList.length ≤ (strip (· == '"') value.toList).length := by
      have hl := length_strip_le (· == '\'') (strip (· == '"') value.toList)
      rwa [h] at hl
    have hd : strip (· == '"') value.toList = value.toList := strip_eq_self_of_length_le hle
    rw [hd] at h
    exact ⟨strip_eq_self_iff.1 hd, strip_eq_self_iff.1 h⟩
  · rintro ⟨hd, hs⟩
    rw [strip_eq_self_iff.2 hd, strip_eq_self_iff.2 hs]

/-! ## Reading a written line -/

theorem Gap.no_equals (gap : Gap) : '=' ∉ gap.chars :=
  fun h => absurd (gap.blank '=' h) (by decide)

namespace WrittenAssignment
variable (a : WrittenAssignment)

/-- White space and the equals sign end a name. -/
def inName (c : Char) : Bool :=
  !isBlank c && c != '='

theorem takeWhile_inName_named : a.named.takeWhile inName = a.key.name.toList := by
  have hkey : ∀ c ∈ a.key.name.toList, inName c = true := by
    intro c hc
    have hne : c ≠ '=' := by
      rintro rfl
      exact a.key.no_equals hc
    simp [inName, a.key.solid c hc, hne]
  have hgap : (a.behindKey.chars ++ '=' :: (a.beforeValue.chars ++ a.quoted)).takeWhile inName =
      [] := by
    cases hg : a.behindKey.chars with
    | nil => simp [inName]
    | cons c gap =>
      have hc : isBlank c = true := a.behindKey.blank c (by simp [hg])
      simp [inName, hc]
  rw [named, List.takeWhile_append_of_pos hkey, hgap, List.append_nil]

/-- A name that only starts like the export word is left alone. -/
theorem afterExport_named : afterExport a.named = a.named := by
  have hp : ¬"export ".toList.isPrefixOf a.named = true := by
    intro h
    obtain ⟨rest, hr⟩ := List.isPrefixOf_iff_prefix.1 h
    -- Up to the first white space or equals sign the one text has the name and the other the word.
    have hword : ("export ".toList ++ rest).takeWhile inName = "export".toList := rfl
    rw [hr, takeWhile_inName_named] at hword
    exact a.key.not_export (String.toList_inj.1 hword)
  rw [afterExport, if_neg hp]

theorem exists_named_cons : ∃ c rest, a.named = c :: rest ∧ isBlank c = false ∧ c ≠ '#' := by
  cases hk : a.key.name.toList with
  | nil => exact absurd (String.toList_eq_nil_iff.1 hk) a.key.nonempty
  | cons c rest =>
    refine ⟨c, rest ++ (a.behindKey.chars ++ '=' :: (a.beforeValue.chars ++ a.quoted)), ?_, ?_, ?_⟩
    · rw [named, hk, List.cons_append]
    · exact a.key.solid c (by simp [hk])
    · rintro rfl
      exact a.key.not_comment (by simp [hk])

theorem afterExport_exportWord : afterExport (a.exportWord ++ a.named) = a.named := by
  unfold exportWord
  cases a.exported with
  | none => exact a.afterExport_named
  | some gap =>
    obtain ⟨c, rest, hn, hc, -⟩ := a.exists_named_cons
    have hp : "export ".toList.isPrefixOf ("export ".toList ++ (gap.chars ++ a.named)) = true :=
      List.isPrefixOf_iff_prefix.2 (List.prefix_append _ _)
    have hd : ("export ".toList ++ (gap.chars ++ a.named)).drop 7 = gap.chars ++ a.named := rfl
    have hs : stripStart isBlank a.named = a.named :=
      stripStart_eq_self_iff.2 (by simp [hn, hc])
    rw [List.append_assoc, afterExport, if_pos hp, hd, stripStart_append_of_all gap.blank, hs]

theorem unquote_quoted : unquote (a.beforeValue.chars ++ a.quoted) =
    strip (· == '\'') (strip (· == '"') a.value.text.toList) := by
  have hbare : Bare isBlank a.quoted := by
    refine ⟨?_, ?_⟩
    · rintro c ⟨⟩
      decide
    · rw [quoted, List.getLast?_append]
      rintro c ⟨⟩
      decide
  have hblank : strip isBlank (a.beforeValue.chars ++ a.quoted) = a.quoted := by
    simpa using strip_padded_of_bare a.beforeValue.blank (List.forall_mem_nil _) hbare
  have hquote : ∀ c ∈ ['"'], (c == '"') = true := by simp
  have hquotes : strip (· == '"') a.quoted = strip (· == '"') a.value.text.toList :=
    strip_padded hquote hquote
  rw [unquote, hblank, hquotes]

/-- The text is split at its first equals sign, which is the written one. -/
theorem readAssignment_named :
    readAssignment a.named = .assignment a.key.name (loadedValue a.value.text) := by
  have hkey : ∀ c ∈ a.key.name.toList ++ a.behindKey.chars, (c != '=') = true := by
    intro c hc
    rw [bne_iff_ne]
    rintro rfl
    exact (List.mem_append.1 hc).elim a.key.no_equals a.behindKey.no_equals
  have hn : a.named = (a.key.name.toList ++ a.behindKey.chars) ++
      '=' :: (a.beforeValue.chars ++ a.quoted) := by
    rw [named, List.append_assoc]
  have htake : a.named.takeWhile (· != '=') = a.key.name.toList ++ a.behindKey.chars := by
    rw [hn, List.takeWhile_append_of_pos hkey]
    simp
  have hdrop : a.named.dropWhile (· != '=') = '=' :: (a.beforeValue.chars ++ a.quoted) := by
    rw [hn, List.dropWhile_append_of_pos hkey]
    simp
  have hname : strip isBlank (a.key.name.toList ++ a.behindKey.chars) = a.key.name.toList := by
    have hbare : Bare isBlank a.key.name.toList :=
      ⟨fun c hc => a.key.solid c (List.mem_of_mem_head? hc),
        fun c hc => a.key.solid c (List.mem_of_getLast? hc)⟩
    simpa using strip_padded_of_bare (List.forall_mem_nil _) a.behindKey.blank hbare
  have hin : a.named.contains '=' = true := by simp [hn]
  rw [readAssignment, if_pos hin, htake, hdrop, trim, String.toList_ofList, hname,
    String.ofList_toList, List.drop_one, List.tail_cons, unquote_quoted]
  rfl

theorem strip_chars : strip isBlank a.chars = a.exportWord ++ a.named := by
  refine strip_padded_of_bare a.before.blank a.behind.blank ⟨?_, ?_⟩
  · obtain ⟨c, rest, hn, hc, -⟩ := a.exists_named_cons
    unfold exportWord
    cases a.exported with
    | none => simp [hn, hc]
    | some gap =>
      rintro e ⟨⟩
      decide
  · have hlast : (a.exportWord ++ a.named).getLast? = some '"' := by
      simp [named, quoted, List.getLast?_append, List.getLast?_cons]
    rw [hlast]
    rintro c ⟨⟩
    decide

theorem read_chars :
    Line.read a.chars = .assignment a.key.name (loadedValue a.value.text) := by
  obtain ⟨c, rest, hs, hc⟩ : ∃ c rest, a.exportWord ++ a.named = c :: rest ∧ c ≠ '#' := by
    unfold exportWord
    cases a.exported with
    | none =>
      obtain ⟨c, rest, hn, -, hc⟩ := a.exists_named_cons
      exact ⟨c, rest, hn, hc⟩
    | some gap => exact ⟨'e', _, rfl, by decide⟩
  rw [Line.read_of_strip (a.strip_chars.trans hs) hc, ← hs, afterExport_exportWord,
    readAssignment_named]

theorem oneLine_chars : OneLine a.chars := by
  have hword : OneLine a.exportWord := by
    unfold exportWord
    cases a.exported with
    | none => exact .nil
    | some gap => exact .append (by decide) gap.oneLine
  have hquoted : OneLine a.quoted :=
    .append (.cons (by decide) a.value.oneLine) (.cons (by decide) .nil)
  have hnamed : OneLine a.named :=
    .append (.of_no_blank a.key.solid)
      (.append a.behindKey.oneLine (.cons (by decide) (.append a.beforeValue.oneLine hquoted)))
  exact .append (.append a.before.oneLine (.append hword hnamed)) a.behind.oneLine

end WrittenAssignment

namespace WrittenLine

theorem oneLine_chars (l : WrittenLine) : OneLine l.chars := by
  cases l with
  | assignment a => exact a.oneLine_chars
  | blank gap => exact gap.oneLine
  | comment gap rest => exact .append gap.oneLine (.cons (by decide) rest.oneLine)

theorem read_chars (l : WrittenLine) :
    Line.read l.chars = match l.pair? with
      | none => .skipped
      | some (key, value) => .assignment key (loadedValue value) := by
  cases l with
  | assignment a => exact a.read_chars
  | blank gap => exact Line.read_of_blank_or_comment (Or.inl gap.blank)
  | comment gap rest =>
    exact Line.read_of_blank_or_comment (Or.inr ⟨gap.chars, _, gap.blank, rfl⟩)

theorem not_unusable_chars (l : WrittenLine) : ¬Unusable l.chars := by
  rw [← Line.read_eq_malformed_iff, read_chars]
  cases l.pair? <;> simp

theorem assigned?_chars (l : WrittenLine) :
    assigned? l.chars = l.pair?.map fun pair => (pair.1, loadedValue pair.2) := by
  rw [assigned?, read_chars]
  cases l.pair? <;> rfl

end WrittenLine

/-! ## Loading a written file -/

namespace WrittenFile

/-- Whoever reads nothing from an empty line reads the lines that were written. -/
theorem filterMap_fileLines {β : Type} {read : List Char → Option β} (h : read [] = none)
    (f : WrittenFile) :
    (fileLines f.text.toList).filterMap read = f.lines.filterMap fun l => read l.chars := by
  obtain ⟨ended, last⟩ := f
  rw [text, String.toList_ofList, lines]
  induction ended with
  | nil =>
    rw [List.flatMap_nil, List.nil_append, filterMap_fileLines_of_oneLine h last.oneLine_chars]
    cases hr : read last.chars <;> simp [hr]
  | cons l ended ih =>
    rw [List.flatMap_cons, List.append_assoc,
      filterMap_fileLines_append h l.1.oneLine_chars l.2, ih]
    cases hr : read l.1.chars <;> simp [hr]

theorem not_unusable (f : WrittenFile) : ∀ line ∈ fileLines f.text.toList, ¬Unusable line := by
  let unusable? : List Char → Option (List Char) :=
    fun line => if Unusable line then some line else none
  have hempty : unusable? [] = none := by decide
  have hnone : (fileLines f.text.toList).filterMap unusable? = [] := by
    rw [filterMap_fileLines hempty, List.filterMap_eq_nil_iff]
    intro l _
    exact if_neg l.not_unusable_chars
  intro line hl hu
  have hn : unusable? line = none := List.filterMap_eq_nil_iff.1 hnone line hl
  simp [unusable?, hu] at hn

theorem assignments_text (f : WrittenFile) :
    assignments (fileLines f.text.toList) =
      f.pairs.map fun pair => (pair.1, loadedValue pair.2) := by
  rw [assignments, filterMap_fileLines (by decide), pairs, List.map_filterMap]
  congr 1
  funext l
  exact l.assigned?_chars

end WrittenFile

/-- A written file is loaded into an empty mapping without failure: its names are there in the order
of the file, and each has the written value exactly if no quote stands at an end of that value. -/
theorem written_file_loaded (f : WrittenFile) (hd : (f.pairs.map Prod.fst).Nodup) (d : Folder)
    (path : Path) (h : d.find path = .file f.text.toUTF8) (override : Bool) :
    let out := loadFile d path .mapping override Table.empty
    out.2 = .ok () ∧ out.1.names = f.pairs.map Prod.fst ∧
    ∀ key value, (key, value) ∈ f.pairs →
      ∃ loaded, out.1.get? key = some loaded ∧ (loaded = value ↔ Bare isQuote value.toList) := by
  intro out
  have hout : out = ((f.pairs.map fun pair => (pair.1, loadedValue pair.2)).foldl
      (assign override) Table.empty, .ok ()) := by
    rw [← f.assignments_text]
    exact loadFile_of_usable h f.not_unusable override Table.empty
  have hkeys : (f.pairs.map fun pair => (pair.1, loadedValue pair.2)).map Prod.fst =
      f.pairs.map Prod.fst := by
    rw [List.map_map]
    rfl
  rw [hout]
  refine ⟨rfl, ?_, ?_⟩
  · rw [names_foldl_assign, hkeys]
    simpa [Table.empty, Table.names, List.removeAll] using eraseDups_of_nodup hd
  · intro key value hm
    have hmade : (key, loadedValue value) ∈
        f.pairs.map fun pair => (pair.1, loadedValue pair.2) :=
      List.mem_map.2 ⟨(key, value), hm, rfl⟩
    refine ⟨loadedValue value, ?_, loadedValue_eq_self_iff⟩
    rw [get?_foldl_assign, valueAfter]
    cases override with
    | true =>
      have hr : ((f.pairs.map fun pair => (pair.1, loadedValue pair.2)).reverse.map
          Prod.fst).Nodup := by
        rw [List.map_reverse, hkeys]
        exact List.nodup_reverse.2 hd
      rw [if_pos rfl, lookup_of_mem hr (List.mem_reverse.2 hmade)]
      rfl
    | false =>
      rw [if_neg (by simp), lookup_of_mem (by rwa [hkeys]) hmade]
      rfl

def Gap.spaces (n : Nat) : Gap where
  chars := List.replicate n ' '
  blank c hc := by
    rw [List.eq_of_mem_replicate hc]
    decide
  oneLine c hc := by
    rw [List.eq_of_mem_replicate hc]
    decide

def sampleFile : WrittenFile where
  ended :=
    [(.comment (.spaces 1) ⟨" none", by decide⟩, ⟨['\r', '\n'], Or.inl rfl⟩),
      (.assignment ⟨.spaces 2, some (.spaces 1),
        ⟨"A", by decide, by decide, by decide, by decide, by decide⟩, .spaces 1, .spaces 0,
        ⟨"it's", by decide⟩, .spaces 3⟩, ⟨['\n'], Or.inr ⟨'\n', by decide, rfl⟩⟩)]
  last := .assignment ⟨.spaces 0, none,
    ⟨"B", by decide, by decide, by decide, by decide, by decide⟩, .spaces 0, .spaces 1,
    ⟨"'x'", by decide⟩, .spaces 0⟩

/-- A quote in the middle of a value stays, quotes at its ends go. -/
theorem end_quotes_lost :
    let out := loadFile (folderOf sampleFile.text) (Path.ofString ".env") .mapping false Table.empty
    out.2 = .ok () ∧ out.1.names = ["A", "B"] ∧ out.1.get? "A" = some "it's" ∧
      ∃ loaded, out.1.get? "B" = some loaded ∧ loaded ≠ "'x'" := by
  obtain ⟨hok, hnames, hvalues⟩ := written_file_loaded sampleFile (by decide)
    (folderOf sampleFile.text) (Path.ofString ".env") (find_folderOf _) false
  obtain ⟨a, ha, hsame⟩ := hvalues "A" "it's" (by decide)
  obtain ⟨b, hb, hother⟩ := hvalues "B" "'x'" (by decide)
  refine ⟨hok, hnames, ?_, b, hb, ?_⟩
  · have hbare : Bare isQuote "it's".toList := by decide
    rw [ha, hsame.2 hbare]
  · intro hx
    have hq := (hother.1 hx).1 '\'' rfl
    exact absurd hq (by decide)

end UsageMeter.Config
