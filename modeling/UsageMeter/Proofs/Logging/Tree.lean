import UsageMeter.Logging.Loggers
import UsageMeter.Proofs.Listing

/-!
The tree of loggers. Making a logger changes no other than in its place in the tree, and the lineage
of a logger is the walk along parents up to the root, since every parent has a shorter name.
-/
namespace UsageMeter

namespace Logging

theorem canonical_ne_empty (name : String) : canonical name ≠ "" := by
  unfold canonical
  split
  · decide
  · next h => exact h

/-- A logger at another place in the tree. -/
def Logger.under (l : Logger) (parent : Option String) : Logger :=
  ⟨l.level, l.propagate, l.handlers, parent, l.listened⟩

namespace Loggers
variable {t : Loggers}

theorem find_put (t : Loggers) (name : String) (l : Logger) (other : String) :
    (t.put name l).find other = if canonical other = canonical name then l else t.find other := by
  rw [find, put, Table.get?_insert]
  by_cases h : canonical other = canonical name
  · simp [h]
  · simp [h, find]

theorem adopt_eq_under (new name : String) (l : Logger) :
    ∃ parent, adopt new name l = l.under parent ∧
      (parent = l.parent ∨ parent = some new ∧ new ∈ namesAbove name) := by
  unfold adopt
  split
  · next h =>
    have hm := List.contains_iff_mem.1 (Bool.and_eq_true_iff.1 h).1
    exact ⟨some new, rfl, Or.inr ⟨rfl, hm⟩⟩
  · exact ⟨l.parent, rfl, Or.inl rfl⟩

/-- Making a logger changes loggers in their parents only. -/
theorem find_create (t : Loggers) (name other : String) :
    ∃ parent, (t.create name).find other = (t.find other).under parent := by
  rw [create]
  by_cases hc : t.contains (canonical name) = true
  · simp only [hc, if_true]
    exact ⟨(t.find other).parent, rfl⟩
  · simp only [hc, Bool.false_eq_true, if_false, find, Table.get?_insert, Table.get?_mapNamed]
    by_cases ho : canonical other = canonical name
    · have hn : t.get? (canonical name) = none :=
        Table.get?_eq_none_iff.2 fun hm => hc (Table.contains_iff.2 hm)
      rw [ho, hn]
      simp [Logger.under, Logger.initial]
    · simp only [ho, if_false]
      cases hg : t.get? (canonical other) with
      | none => exact ⟨none, rfl⟩
      | some l =>
        obtain ⟨parent, he, -⟩ := adopt_eq_under (canonical name) (canonical other) l
        exact ⟨parent, by simp [he]⟩

/-- Loggers bear names, and each is below one of the names above it, which is there, or below the
root. -/
structure Shaped (t : Loggers) : Prop where
  named : "" ∉ t.names
  above : ∀ e ∈ t.entries, ∀ p ∈ e.2.parent, p ∈ namesAbove e.1 ∧ p ∈ t.names

theorem Shaped.parent (h : t.Shaped) {name p : String} (hp : (t.find name).parent = some p) :
    p ∈ namesAbove (canonical name) ∧ p ∈ t.names := by
  cases hg : t.get? (canonical name) with
  | none =>
    rw [find, hg] at hp
    cases hp
  | some l =>
    rw [find, hg] at hp
    exact h.above _ (Table.mem_entries_of_get? hg) p hp

theorem Shaped.put (h : t.Shaped) {name : String} {l : Logger}
    (hl : l.parent = (t.find name).parent) : (t.put name l).Shaped := by
  have hnames : (Loggers.put t name l).names = enlist t.names (canonical name) :=
    Table.names_insert t (canonical name) l
  refine ⟨?_, ?_⟩
  · rw [hnames, mem_enlist_iff]
    rintro (hm | he)
    · exact h.named hm
    · exact canonical_ne_empty name he.symm
  · intro e he p hp
    rw [hnames, mem_enlist_iff]
    obtain rfl | hm := Table.mem_entries_insert he
    · obtain ⟨ha, hn⟩ := h.parent (hl.symm.trans hp)
      exact ⟨ha, Or.inl hn⟩
    · obtain ⟨ha, hn⟩ := h.above e hm p hp
      exact ⟨ha, Or.inl hn⟩

theorem Shaped.create (h : t.Shaped) (name : String) : (t.create name).Shaped := by
  rw [Loggers.create]
  by_cases hc : t.contains (canonical name) = true
  · simpa only [hc, if_true] using h
  · simp only [hc, Bool.false_eq_true, if_false]
    refine ⟨?_, ?_⟩
    · rw [Table.names_insert, Table.names_mapNamed, mem_enlist_iff]
      rintro (hm | he)
      · exact h.named hm
      · exact canonical_ne_empty name he.symm
    · intro e he p hp
      rw [Table.names_insert, Table.names_mapNamed, mem_enlist_iff]
      obtain rfl | hm := Table.mem_entries_insert he
      · have hfound : (namesAbove (canonical name)).find? (fun n => t.contains n) = some p := hp
        exact ⟨List.mem_of_find?_eq_some hfound,
          Or.inl (Table.contains_iff.1 (List.find?_some hfound))⟩
      · obtain ⟨e', he', rfl⟩ := List.mem_map.1 hm
        obtain ⟨parent, hadopt, hparent⟩ := adopt_eq_under (canonical name) e'.1 e'.2
        simp only [hadopt, Logger.under] at hp
        obtain rfl | ⟨rfl, hnew⟩ := hparent
        · obtain ⟨ha, hn⟩ := h.above e' he' p hp
          exact ⟨ha, Or.inl hn⟩
        · cases hp
          exact ⟨hnew, Or.inr rfl⟩

/-- A new logger carries no handlers, and the others keep theirs. -/
theorem handlers_create (h : ∀ e ∈ t.entries, e.2.handlers = []) (name : String) :
    ∀ e ∈ (t.create name).entries, e.2.handlers = [] := by
  rw [create]
  by_cases hc : t.contains (canonical name) = true
  · simpa only [hc, if_true] using h
  · simp only [hc, Bool.false_eq_true, if_false]
    intro e he
    obtain rfl | hm := Table.mem_entries_insert he
    · rfl
    · obtain ⟨e', he', rfl⟩ := List.mem_map.1 hm
      obtain ⟨parent, hadopt, -⟩ := adopt_eq_under (canonical name) e'.1 e'.2
      rw [hadopt]
      exact h e' he'

/-! ## Walks -/

end Loggers
end Logging
end UsageMeter
