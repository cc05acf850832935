import Mathlib.Data.List.Basic
import UsageMeter.Text.Blank
import UsageMeter.Text.Lines

/-!
Texts put together from lines. Lines that each end at some boundary are found again when the text is
split, except that a return before a feed ends one line and not two.
-/
namespace UsageMeter.Text

/-- The lines of a file that holds a text. -/
def fileLines (cs : List Char) : List (List Char) :=
  splitLines (universalNewlines cs)

/-- No line boundary stands in the text. -/
def OneLine (cs : List Char) : Prop :=
  ∀ c ∈ cs, isBreak c = false

instance : DecidablePred OneLine :=
  fun cs => List.decidableBAll (fun c => isBreak c = false) cs

/-- A written line boundary: one of the characters, or a return with a feed. -/
structure LineEnd where
  chars : List Char
  ends : chars = ['\r', '\n'] ∨ ∃ c, isBreak c = true ∧ chars = [c]

theorem OneLine.nil : OneLine [] := by
  simp [OneLine]

theorem OneLine.cons {c : Char} {cs : List Char} (hc : isBreak c = false) (h : OneLine cs) :
    OneLine (c :: cs) := by
  simpa [OneLine, hc] using h

theorem OneLine.append {cs ds : List Char} (hc : OneLine cs) (hd : OneLine ds) :
    OneLine (cs ++ ds) :=
  fun c h => (List.mem_append.1 h).elim (hc c) (hd c)

/-- A text without white space has no line boundary: every boundary is white space. -/
theorem OneLine.of_no_blank {cs : List Char} (h : ∀ c ∈ cs, isBlank c = false) : OneLine cs := by
  intro c hc
  have hb := h c hc
  simp only [isBlank, isBreak, Bool.or_eq_false_iff, Bool.and_eq_false_iff, decide_eq_false_iff_not,
    beq_eq_false_iff_ne] at hb ⊢
  omega

theorem OneLine.tail {c : Char} {cs : List Char} (h : OneLine (c :: cs)) : OneLine cs :=
  fun d hd => h d (by simp [hd])

theorem OneLine.head_ne_return {c : Char} {cs : List Char} (h : OneLine (c :: cs)) : c ≠ '\r' := by
  rintro rfl
  exact absurd (h '\r' (by simp)) (by decide)

/-! ## Line endings of a file -/

theorem universalNewlines_cons {c : Char} (hc : c ≠ '\r') (cs : List Char) :
    universalNewlines (c :: cs) = c :: universalNewlines cs := by
  rw [universalNewlines, if_neg hc]
  exact fun _ h _ => hc h

theorem universalNewlines_append {cs : List Char} (h : OneLine cs) (rest : List Char) :
    universalNewlines (cs ++ rest) = cs ++ universalNewlines rest := by
  induction cs with
  | nil => rfl
  | cons c cs ih => rw [List.cons_append, universalNewlines_cons h.head_ne_return, ih h.tail]; rfl

/-! ## Splitting -/

theorem splitLines_break {c : Char} (hb : isBreak c = true) (hc : c ≠ '\r') (rest : List Char) :
    splitLines (c :: rest) = [] :: splitLines rest := by
  rw [splitLines, if_pos hb]
  exact fun _ h _ => hc h

theorem splitLines_cons {c : Char} (hb : isBreak c = false) (rest : List Char) :
    splitLines (c :: rest) = match splitLines rest with
      | [] => [[c]]
      | line :: lines => (c :: line) :: lines := by
  have hreturn : ∀ more, c = '\r' → rest = '\n' :: more → False := by
    rintro _ rfl _
    exact absurd hb (by decide)
  have hbreak : ¬isBreak c = true := by simp [hb]
  exact (splitLines.eq_3 c rest hreturn).trans (if_neg hbreak)

theorem splitLines_append_break {cs : List Char} (h : OneLine cs) {c : Char}
    (hb : isBreak c = true) (hc : c ≠ '\r') (rest : List Char) :
    splitLines (cs ++ c :: rest) = cs :: splitLines rest := by
  induction cs with
  | nil => exact splitLines_break hb hc rest
  | cons d cs ih => rw [List.cons_append, splitLines_cons (h d (by simp)), ih h.tail]

theorem splitLines_of_oneLine {cs : List Char} (h : OneLine cs) (hne : cs ≠ []) :
    splitLines cs = [cs] := by
  induction cs with
  | nil => exact absurd rfl hne
  | cons c cs ih =>
    rw [splitLines_cons (h c (by simp))]
    cases cs with
    | nil => rfl
    | cons d cs => rw [ih h.tail (by simp)]

theorem oneLine_of_mem_splitLines {cs line : List Char} (h : line ∈ splitLines cs) :
    OneLine line := by
  fun_induction splitLines cs generalizing line with
  | case1 => simp at h
  | case2 cs ih | case3 c cs _ _ ih =>
    obtain rfl | h := List.mem_cons.1 h
    · exact .nil
    · exact ih h
  | case4 c cs _ hb =>
    rw [List.mem_singleton.1 h]
    exact .cons (by simpa using hb) .nil
  | case5 c cs _ hb first lines he ih =>
    obtain rfl | h := List.mem_cons.1 h
    · exact .cons (by simpa using hb) (ih (by simp [he]))
    · exact ih (by simp [he, h])

theorem splitLines_eq_nil_iff {cs : List Char} : splitLines cs = [] ↔ cs = [] := by
  fun_cases splitLines cs with
  | case1 => simp
  | case2 => simp
  | case3 => simp
  | case4 => simp
  | case5 => simp

/-- The lines of a text, a feed and another text are the lines of both. Where the first text is
empty or ends at a boundary already, the feed ends an empty line between them. -/
theorem splitLines_append_feed {cs : List Char} (h : '\r' ∉ cs) (ds : List Char) :
    ∃ gap, (gap = [] ∨ gap = [[]]) ∧
      splitLines (cs ++ '\n' :: ds) = splitLines cs ++ gap ++ splitLines ds := by
  have hfeed : splitLines ('\n' :: ds) = [] :: splitLines ds :=
    splitLines_break (by decide) (by decide) ds
  fun_induction splitLines cs with
  | case1 => exact ⟨[[]], Or.inr rfl, hfeed⟩
  | case2 cs => simp at h
  | case3 c cs hreturn hb ih =>
    rw [List.mem_cons, not_or] at h
    obtain ⟨gap, hgap, he⟩ := ih h.2
    refine ⟨gap, hgap, ?_⟩
    rw [List.cons_append, splitLines_break hb (Ne.symm h.1), he]
    rfl
  | case4 c cs hreturn hb hnil =>
    refine ⟨[], Or.inl rfl, ?_⟩
    rw [splitLines_eq_nil_iff.1 hnil, List.cons_append, List.nil_append,
      splitLines_cons (by simpa using hb), hfeed]
    rfl
  | case5 c cs hreturn hb first lines hlines ih =>
    rw [List.mem_cons, not_or] at h
    obtain ⟨gap, hgap, he⟩ := ih h.2
    refine ⟨gap, hgap, ?_⟩
    rw [hlines] at he
    rw [List.cons_append, splitLines_cons (by simpa using hb), he]
    rfl

/-! ## Files -/

/-- A text with universal newlines has no returns. -/
theorem return_not_mem_universalNewlines (cs : List Char) : '\r' ∉ universalNewlines cs := by
  fun_induction universalNewlines cs with
  | case1 => simp
  | case2 cs ih => simpa using ih
  | case3 c cs hfeed ih =>
    rw [List.mem_cons, not_or]
    refine ⟨?_, ih⟩
    split
    · decide
    · next hc => exact Ne.symm hc

theorem fileLines_break {cs : List Char} (h : OneLine cs) {c : Char} (hb : isBreak c = true)
    (hc : c ≠ '\r') (rest : List Char) :
    fileLines (cs ++ c :: rest) = cs :: fileLines rest := by
  rw [fileLines, universalNewlines_append h, universalNewlines_cons hc,
    splitLines_append_break h hb hc]
  rfl

theorem fileLines_return_feed {cs : List Char} (h : OneLine cs) (rest : List Char) :
    fileLines (cs ++ '\r' :: '\n' :: rest) = cs :: fileLines rest := by
  rw [fileLines, universalNewlines_append h]
  exact splitLines_append_break h (by decide) (by decide) _

theorem fileLines_return {cs rest : List Char} (h : OneLine cs) (hr : ∀ more, rest ≠ '\n' :: more) :
    fileLines (cs ++ '\r' :: rest) = cs :: fileLines rest := by
  have hu : universalNewlines ('\r' :: rest) = '\n' :: universalNewlines rest := by
    rw [universalNewlines, if_pos rfl]
    exact fun more _ => hr more
  rw [fileLines, universalNewlines_append h, hu]
  exact splitLines_append_break h (by decide) (by decide) _

section Reading
variable {β : Type} {f : List Char → Option β}

/-- Whoever reads nothing from an empty line reads a line first and then the lines after its end.
Only the empty line between a return and a feed is lost. -/
theorem filterMap_fileLines_append (hf : f [] = none) {cs : List Char} (h : OneLine cs)
    (e : LineEnd) (rest : List Char) :
    (fileLines (cs ++ e.chars ++ rest)).filterMap f =
      (f cs).toList ++ (fileLines rest).filterMap f := by
  have hcons : ∀ lines : List (List Char),
      (cs :: lines).filterMap f = (f cs).toList ++ lines.filterMap f := by
    intro lines
    rw [List.filterMap_cons]
    cases f cs <;> rfl
  rw [List.append_assoc]
  obtain he | ⟨c, hb, he⟩ := e.ends
  · rw [he, ← hcons]
    exact congrArg _ (fileLines_return_feed h rest)
  · rw [he, ← hcons]
    by_cases hc : c = '\r'
    · subst hc
      -- A return takes a feed at the start of the rest with it; read alone, that feed would end an
      -- empty line, of which nothing is read anyway.
      by_cases hr : ∃ more, rest = '\n' :: more
      · obtain ⟨more, rfl⟩ := hr
        have hl : fileLines ('\n' :: more) = [] :: fileLines more :=
          fileLines_break .nil (by decide) (by decide) more
        rw [hl, hcons, List.filterMap_cons_none hf, ← hcons]
        exact congrArg _ (fileLines_return_feed h more)
      · exact congrArg _ (fileLines_return h fun more hm => hr ⟨more, hm⟩)
    · exact congrArg _ (fileLines_break h hb hc rest)

theorem filterMap_fileLines_of_oneLine (hf : f [] = none) {cs : List Char} (h : OneLine cs) :
    (fileLines cs).filterMap f = (f cs).toList := by
  have hu : universalNewlines cs = cs := by
    simpa [universalNewlines] using universalNewlines_append h []
  rw [fileLines, hu]
  cases cs with
  | nil => simp [splitLines, hf]
  | cons c cs =>
    rw [splitLines_of_oneLine h (by simp), List.filterMap_cons]
    cases f (c :: cs) <;> rfl

end Reading

/-- Lines that each end in a feed are the lines of the file. -/
theorem fileLines_flatMap_feed {lines : List (List Char)} (h : ∀ line ∈ lines, OneLine line) :
    fileLines (lines.flatMap fun line => line ++ ['\n']) = lines := by
  induction lines with
  | nil => rfl
  | cons line lines ih =>
    have hrest := ih fun l hl => h l (by simp [hl])
    rw [List.flatMap_cons, List.append_assoc]
    exact (fileLines_break (h line (by simp)) (by decide) (by decide) _).trans
      (congrArg _ hrest)

end UsageMeter.Text
