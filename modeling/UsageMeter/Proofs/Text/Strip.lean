import Mathlib.Data.List.DropRight
import UsageMeter.Text.Blank

/-!
Stripped texts. Stripping leaves exactly the texts unchanged that have no character of the class at
either end, it always ends in such a text, and what it takes away can be put back without a trace.
-/
namespace UsageMeter.Text
variable {p : Char → Bool} {cs : List Char}

/-- No character of the class stands at either end. -/
def Bare (p : Char → Bool) (cs : List Char) : Prop :=
  (∀ c ∈ cs.head?, p c = false) ∧ ∀ c ∈ cs.getLast?, p c = false

theorem stripStart_eq_self_iff : stripStart p cs = cs ↔ ∀ c ∈ cs.head?, p c = false := by
  cases cs with
  | nil => simp [stripStart]
  | cons c cs => simp [stripStart, List.dropWhile_eq_self_iff]

theorem stripEnd_eq_self_iff : stripEnd p cs = cs ↔ ∀ c ∈ cs.getLast?, p c = false := by
  rw [← List.head?_reverse, ← stripStart_eq_self_iff, stripEnd, stripStart, List.reverse_eq_iff]

theorem prefix_strip (p : Char → Bool) (cs : List Char) : strip p cs <+: stripStart p cs :=
  List.rdropWhile_prefix p _

theorem length_strip_le (p : Char → Bool) (cs : List Char) :
    (strip p cs).length ≤ cs.length :=
  (prefix_strip p cs).length_le.trans (List.dropWhile_suffix p).length_le

theorem strip_eq_self_of_length_le (h : cs.length ≤ (strip p cs).length) : strip p cs = cs := by
  have hle : (strip p cs).length ≤ (stripStart p cs).length := (prefix_strip p cs).length_le
  have hs : stripStart p cs = cs := (List.dropWhile_suffix p).eq_of_length_le (h.trans hle)
  have he : strip p cs = stripStart p cs := (prefix_strip p cs).eq_of_length_le (by rwa [hs])
  rw [he, hs]

theorem stripStart_stripStart (p : Char → Bool) (cs : List Char) :
    stripStart p (stripStart p cs) = stripStart p cs :=
  List.dropWhile_idempotent p cs

theorem head_stripStart {c : Char} {rest : List Char} (h : stripStart p cs = c :: rest) :
    p c = false :=
  stripStart_eq_self_iff.1 (stripStart_stripStart p cs) c (by simp [h])

theorem bare_strip (p : Char → Bool) (cs : List Char) : Bare p (strip p cs) := by
  constructor
  · intro c hc
    have hfirst := stripStart_eq_self_iff.1 (stripStart_stripStart p cs)
    obtain ⟨rest, hr⟩ := prefix_strip p cs
    refine hfirst c ?_
    rw [← hr, List.head?_append, Option.mem_def.1 hc]
    rfl
  · exact stripEnd_eq_self_iff.1 (List.rdropWhile_idempotent p (stripStart p cs))

theorem strip_eq_self_iff : strip p cs = cs ↔ Bare p cs := by
  constructor
  · intro h
    rw [← h]
    exact bare_strip p cs
  · rintro ⟨hhead, hlast⟩
    rw [strip, stripStart_eq_self_iff.2 hhead, stripEnd_eq_self_iff.2 hlast]

theorem bare_of_forall (h : ∀ c ∈ cs, p c = false) : Bare p cs :=
  ⟨fun c hc => h c (List.mem_of_mem_head? hc), fun c hc => h c (List.mem_of_mem_getLast? hc)⟩

instance : Decidable (Bare p cs) :=
  decidable_of_iff _ strip_eq_self_iff

theorem stripEnd_cons {c : Char} (hc : p c = false) (cs : List Char) :
    stripEnd p (c :: cs) = c :: stripEnd p cs := by
  rw [stripEnd, List.reverse_cons, List.dropWhile_append, stripEnd]
  by_cases he : (cs.reverse.dropWhile p).isEmpty = true
  · rw [if_pos he, List.isEmpty_iff.1 he]
    simp [hc]
  · rw [if_neg he, List.reverse_append]
    rfl

theorem strip_eq_nil_iff : strip p cs = [] ↔ ∀ c ∈ cs, p c = true := by
  constructor
  · intro h
    have hs : stripStart p cs = [] := by
      cases hd : stripStart p cs with
      | nil => rfl
      | cons c rest =>
        have hc : p c = false := head_stripStart hd
        rw [strip, hd, stripEnd_cons hc] at h
        simp at h
    exact List.dropWhile_eq_nil_iff.1 hs
  · intro h
    rw [strip, stripStart, List.dropWhile_eq_nil_iff.2 h]
    rfl

theorem mem_stripStart_iff {c : Char} (hc : p c = false) : c ∈ stripStart p cs ↔ c ∈ cs := by
  refine ⟨fun h => List.dropWhile_subset p h, fun h => ?_⟩
  have hsplit : cs.takeWhile p ++ stripStart p cs = cs := List.takeWhile_append_dropWhile
  rw [← hsplit, List.mem_append] at h
  obtain h | h := h
  · exact absurd (List.mem_takeWhile_imp h) (by simp [hc])
  · exact h

theorem mem_strip_iff {c : Char} (hc : p c = false) : c ∈ strip p cs ↔ c ∈ cs := by
  have hs : c ∈ stripStart p cs ↔ c ∈ cs := mem_stripStart_iff hc
  rw [strip, stripEnd, List.mem_reverse, ← hs]
  exact (mem_stripStart_iff hc).trans List.mem_reverse

theorem stripStart_append_of_all {before : List Char} (h : ∀ c ∈ before, p c = true) :
    stripStart p (before ++ cs) = stripStart p cs :=
  List.dropWhile_append_of_pos h

theorem stripEnd_append_of_all {after : List Char} (h : ∀ c ∈ after, p c = true) :
    stripEnd p (cs ++ after) = stripEnd p cs := by
  rw [stripEnd, List.reverse_append, List.dropWhile_append_of_pos (by simpa using h)]
  rfl

/-- What stripping takes away is of the class. -/
theorem exists_padded_strip (p : Char → Bool) (cs : List Char) :
    ∃ before after, (∀ c ∈ before, p c = true) ∧ (∀ c ∈ after, p c = true) ∧
      cs = before ++ strip p cs ++ after := by
  refine ⟨cs.takeWhile p, ((stripStart p cs).reverse.takeWhile p).reverse,
    fun c => List.mem_takeWhile_imp, fun c hc => List.mem_takeWhile_imp (List.mem_reverse.1 hc), ?_⟩
  have hend : strip p cs ++ ((stripStart p cs).reverse.takeWhile p).reverse = stripStart p cs := by
    rw [strip, stripEnd, ← List.reverse_append, List.takeWhile_append_dropWhile,
      List.reverse_reverse]
  rw [List.append_assoc, hend]
  exact List.takeWhile_append_dropWhile.symm

/-- Characters of the class around a text make no difference. -/
theorem strip_padded {before after : List Char} (hb : ∀ c ∈ before, p c = true)
    (ha : ∀ c ∈ after, p c = true) : strip p (before ++ cs ++ after) = strip p cs := by
  rw [strip, strip, List.append_assoc, stripStart_append_of_all hb]
  -- A text of nothing but the class falls together with the characters around it.
  by_cases hall : stripStart p cs = []
  · have hcs : ∀ c ∈ cs, p c = true := List.dropWhile_eq_nil_iff.1 hall
    rw [stripStart_append_of_all hcs, hall]
    exact strip_eq_nil_iff.2 ha
  · have hs : stripStart p (cs ++ after) = stripStart p cs ++ after := by
      have hne : ((cs.dropWhile p).isEmpty) = false := by simpa [stripStart] using hall
      simp [stripStart, List.dropWhile_append, hne]
    rw [hs, stripEnd_append_of_all ha]

/-- A bare text is found again between characters of the class. -/
theorem strip_padded_of_bare {before after : List Char} (hb : ∀ c ∈ before, p c = true)
    (ha : ∀ c ∈ after, p c = true) (hc : Bare p cs) : strip p (before ++ cs ++ after) = cs :=
  (strip_padded hb ha).trans (strip_eq_self_iff.2 hc)

end UsageMeter.Text
