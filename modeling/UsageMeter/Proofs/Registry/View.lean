import Mathlib.Data.List.Nodup
import UsageMeter.Proofs.Listing
import UsageMeter.Registry.Run

/-!
What a registry shows: the names of its live counters and the value under each. Every operation is
described by what it does to these two, provided that the entries are sound: each points at a
counter of its own name, and no name has two.
-/
namespace UsageMeter.Registry

/-- Entries point at counters that bear their names, and no name occurs twice. -/
structure Sound (r : Registry) : Prop where
  bears : ∀ e ∈ r.entries, (r.counters[e.2]?).map Counter.name = some e.1
  distinct : (r.entries.map Prod.fst).Nodup

theorem sound_of_entries_eq_nil {r : Registry} (h : r.entries = []) : r.Sound :=
  ⟨by simp [h], by simp [h]⟩

/-! ## Entries -/

theorem mem_entries_of_find? {r : Registry} {name : String} {i : Nat}
    (h : r.find? name = some i) : (name, i) ∈ r.entries := by
  obtain ⟨before, after, he, _⟩ := List.lookup_eq_some_iff.1 h
  rw [he]
  simp

theorem find?_eq_none_iff {r : Registry} {name : String} :
    r.find? name = none ↔ name ∉ r.entries.map Prod.fst :=
  lookup_eq_none_iff_not_mem

namespace Sound
variable {r : Registry}

/-- Entries that point at one counter are for one name. -/
theorem name_eq_of_mem (h : r.Sound) {a b : String} {i : Nat} (ha : (a, i) ∈ r.entries)
    (hb : (b, i) ∈ r.entries) : a = b :=
  Option.some.inj ((h.bears _ ha).symm.trans (h.bears _ hb))

theorem counter_of_find? (h : r.Sound) {name : String} {i : Nat} (hf : r.find? name = some i) :
    ∃ c, r.counters[i]? = some c ∧ c.name = name :=
  Option.map_eq_some_iff.1 (h.bears _ (mem_entries_of_find? hf))

theorem eq_of_find? (h : r.Sound) {a b : String} {i : Nat} (ha : r.find? a = some i)
    (hb : r.find? b = some i) : a = b :=
  h.name_eq_of_mem (mem_entries_of_find? ha) (mem_entries_of_find? hb)

theorem lt_of_mem (h : r.Sound) {e : String × Nat} (he : e ∈ r.entries) :
    e.2 < r.counters.length := by
  have hb := h.bears e he
  by_contra hn
  rw [List.getElem?_eq_none (Nat.le_of_not_lt hn)] at hb
  simp at hb

theorem find?_of_mem (h : r.Sound) {e : String × Nat} (he : e ∈ r.entries) :
    r.find? e.1 = some e.2 :=
  lookup_of_mem h.distinct he

theorem live_eq (h : r.Sound) :
    r.live.map (fun c => (c.name, c.value)) = r.entries.map fun e => (e.1, r.valueAt e.2) := by
  rw [live, List.map_filterMap]
  have hm : ∀ e ∈ r.entries, ((r.counters[e.2]?).map fun c => (c.name, c.value)) =
      some (e.1, r.valueAt e.2) := by
    intro e he
    obtain ⟨c, hc, hn⟩ := Option.map_eq_some_iff.1 (h.bears e he)
    simp [valueAt, hc, hn]
  rw [List.filterMap_congr hm]
  exact congrFun List.filterMap_eq_map' r.entries

theorem names_eq (h : r.Sound) : r.names = r.entries.map Prod.fst := by
  have hl := congrArg (List.map Prod.fst) h.live_eq
  simpa [names, List.map_map, Function.comp_def] using hl

theorem nodup_names (h : r.Sound) : r.names.Nodup :=
  h.names_eq ▸ h.distinct

theorem mem_names_iff (h : r.Sound) {name : String} : name ∈ r.names ↔ r.contains name := by
  rw [h.names_eq, contains, Option.isSome_iff_ne_none, ne_eq, find?_eq_none_iff, not_not]

theorem get_eq_valueAt (h : r.Sound) {e : String × Nat} (he : e ∈ r.entries) :
    r.get e.1 = r.valueAt e.2 := by
  rw [get, h.find?_of_mem he]

/-- Names and values in order are the names, each with its value. -/
theorem pairs_eq (h : r.Sound) : r.pairs = r.names.map fun name => (name, r.get name) := by
  rw [pairs, h.live_eq, h.names_eq, List.map_map]
  apply List.map_congr_left
  intro e he
  simp [h.get_eq_valueAt he]

theorem entries_snapshot (h : r.Sound) : r.snapshot.entries = r.pairs := by
  apply Table.entries_ofList
  rw [h.pairs_eq, List.map_map]
  simpa [Function.comp_def] using h.nodup_names

end Sound

theorem get_eq_zero_of_find?_eq_none {r : Registry} {name : String} (h : r.find? name = none) :
    r.get name = 0 := by
  rw [get, h]

/-- A snapshot gives each name its value, and zero to a name that is not live. -/
theorem Sound.getD_snapshot {r : Registry} (h : r.Sound) (name : String) :
    (r.snapshot.get? name).getD 0 = r.get name := by
  rw [Table.get?, h.entries_snapshot, h.pairs_eq, lookup_map_self]
  split
  · rfl
  · next hn =>
    rw [h.names_eq, ← find?_eq_none_iff] at hn
    exact (get_eq_zero_of_find?_eq_none hn).symm

end UsageMeter.Registry
