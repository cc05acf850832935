import Mathlib.Data.List.Basic
import UsageMeter.Proofs.Text.Strip

/-!
Pieces of texts. A text put together with a separator that is in none of its pieces is split into
those pieces again, and it is as bare at its ends as they are. What stands around a text goes to its
outer pieces.
-/
namespace UsageMeter.Text
variable {sep : Char}

/-- Splitting is the splitting of lists at a value. -/
theorem splitOn_eq_list_splitOn (cs : List Char) : splitOn sep cs = cs.splitOn sep := by
  induction cs with
  | nil => rfl
  | cons c cs ih =>
    rw [splitOn, List.splitOn_cons_eq_if_modifyHead, ih]
    by_cases h : c = sep
    · simp [h]
    · cases hs : cs.splitOn sep with
      | nil => exact absurd hs (List.splitOn_ne_nil sep cs)
      | cons piece pieces => simp [h]

theorem splitOn_intercalate {pieces : List (List Char)} (h : ∀ piece ∈ pieces, sep ∉ piece)
    (hne : pieces ≠ []) : splitOn sep ([sep].intercalate pieces) = pieces := by
  rw [splitOn_eq_list_splitOn]
  exact List.splitOn_intercalate sep h hne

theorem not_mem_of_mem_splitOn {cs piece : List Char} (h : piece ∈ splitOn sep cs) :
    sep ∉ piece := by
  fun_induction splitOn sep cs generalizing piece with
  | case1 => simp_all
  | case2 cs ih =>
    obtain rfl | h := List.mem_cons.1 h
    · simp
    · exact ih h
  | case3 c cs hc he ih => exact absurd he (splitOn_ne_nil sep cs)
  | case4 c cs hc first pieces he ih =>
    obtain rfl | h := List.mem_cons.1 h
    · have hf : sep ∉ first := ih (by simp [he])
      simp [Ne.symm hc, hf]
    · exact ih (by simp [he, h])

/-- Pieces that are not empty and bare make a bare text. -/
theorem bare_intercalate {p : Char → Bool} {pieces : List (List Char)}
    (h : ∀ piece ∈ pieces, piece ≠ [] ∧ Bare p piece) : Bare p ([sep].intercalate pieces) := by
  induction pieces with
  | nil => simp [Bare]
  | cons piece pieces ih =>
    obtain ⟨hne, hhead, hlast⟩ := h piece (by simp)
    have hrest : ∀ piece ∈ pieces, piece ≠ [] ∧ Bare p piece := fun q hq => h q (by simp [hq])
    cases pieces with
    | nil => simpa using ⟨hhead, hlast⟩
    | cons next pieces =>
      obtain ⟨-, hl⟩ := ih hrest
      have hn : [sep].intercalate (next :: pieces) ≠ [] := by
        have hnext : next ≠ [] := (hrest next (by simp)).1
        cases pieces <;> simp [List.intercalate, hnext]
      have he : [sep].intercalate (piece :: next :: pieces) =
          piece ++ sep :: [sep].intercalate (next :: pieces) := by
        simp [List.intercalate]
      rw [he]
      refine ⟨?_, ?_⟩
      · rw [List.head?_append_of_ne_nil _ hne]
        exact hhead
      · rw [List.getLast?_append_of_ne_nil _ (by simp), List.getLast?_cons_of_ne_nil hn]
        exact hl

/-! ## Characters around a text that is split -/

/-- What comes before a text goes to its first piece. -/
theorem splitOn_append_left {before : List Char} (h : sep ∉ before) (cs : List Char) :
    ∃ first rest, splitOn sep cs = first :: rest ∧
      splitOn sep (before ++ cs) = (before ++ first) :: rest := by
  induction before with
  | nil =>
    cases hs : splitOn sep cs with
    | nil => exact absurd hs (splitOn_ne_nil sep cs)
    | cons first rest => exact ⟨first, rest, rfl, hs⟩
  | cons c before ih =>
    rw [List.mem_cons, not_or] at h
    obtain ⟨first, rest, hs, hb⟩ := ih h.2
    refine ⟨first, rest, hs, ?_⟩
    rw [List.cons_append, splitOn, if_neg (Ne.symm h.1), hb]
    rfl

/-- What comes after a text goes to its last piece. -/
theorem splitOn_append_right {after : List Char} (h : sep ∉ after) (cs : List Char) :
    ∃ first last, splitOn sep cs = first ++ [last] ∧
      splitOn sep (cs ++ after) = first ++ [last ++ after] := by
  induction cs with
  | nil =>
    have hafter : splitOn sep ([sep].intercalate [after]) = [after] :=
      splitOn_intercalate (by simpa using h) (by simp)
    exact ⟨[], [], rfl, by simpa using hafter⟩
  | cons c cs ih =>
    obtain ⟨first, last, hs, ha⟩ := ih
    by_cases hc : c = sep
    · refine ⟨[] :: first, last, ?_, ?_⟩
      · rw [splitOn, if_pos hc, hs]
        rfl
      · rw [List.cons_append, splitOn, if_pos hc, ha]
        rfl
    · cases first with
      | nil =>
        refine ⟨[], c :: last, ?_, ?_⟩
        · rw [splitOn, if_neg hc, hs]
          rfl
        · rw [List.cons_append, splitOn, if_neg hc, ha]
          rfl
      | cons piece first =>
        refine ⟨(c :: piece) :: first, last, ?_, ?_⟩
        · rw [splitOn, if_neg hc, hs]
          rfl
        · rw [List.cons_append, splitOn, if_neg hc, ha]
          rfl

/-- Stripping a text strips the ends of its outer pieces and nothing else. -/
theorem map_strip_splitOn_strip {p : Char → Bool} (hsep : p sep = false) (cs : List Char) :
    (splitOn sep (strip p cs)).map (strip p) = (splitOn sep cs).map (strip p) := by
  obtain ⟨before, after, hb, ha, hcs⟩ := exists_padded_strip p cs
  have hleft : sep ∉ before := fun hm => by simp [hb sep hm] at hsep
  have hright : sep ∉ after := fun hm => by simp [ha sep hm] at hsep
  obtain ⟨first, rest, hs, hbs⟩ := splitOn_append_left hleft (strip p cs ++ after)
  obtain ⟨front, last, hs', has⟩ := splitOn_append_right hright (strip p cs)
  have hfirst : strip p (before ++ first ++ []) = strip p first := strip_padded hb (by simp)
  have hlast : strip p ([] ++ last ++ after) = strip p last := strip_padded (by simp) ha
  rw [List.append_nil] at hfirst
  rw [List.nil_append] at hlast
  conv_rhs => rw [hcs, List.append_assoc, hbs, List.map_cons, hfirst, ← List.map_cons, ← hs, has]
  rw [hs', List.map_append, List.map_append, List.map_singleton, List.map_singleton, hlast]

end UsageMeter.Text
