import UsageMeter.Hub

/-!
Hubs as stores: what is put under a number is found there, and everything else stays as it was.
-/
namespace UsageMeter.Hub

theorem registry_setRegistry_self (h : Hub) {i : Nat} (hi : i < h.registries.length)
    (r : Registry) : (h.setRegistry i r).registry i = r := by
  rw [registry, setRegistry, List.getD_eq_getElem?_getD, List.getElem?_set_self hi]
  rfl

theorem registry_setRegistry_of_ne (h : Hub) {i j : Nat} (hij : i ≠ j) (r : Registry) :
    (h.setRegistry i r).registry j = h.registry j := by
  rw [registry, setRegistry, List.getD_eq_getElem?_getD, List.getElem?_set_ne hij,
    ← List.getD_eq_getElem?_getD]
  rfl

/-- Putting back what is there changes nothing, also under a number that is not in use. -/
theorem set_getD {α : Type} (xs : List α) (i : Nat) (d : α) : xs.set i (xs.getD i d) = xs := by
  by_cases hi : i < xs.length
  · have he : xs.getD i d = xs[i] := by
      rw [List.getD_eq_getElem?_getD, List.getElem?_eq_getElem hi]
      rfl
    rw [he, List.set_getElem_self]
  · rw [List.set_eq_of_length_le (Nat.le_of_not_lt hi)]

theorem setRegistry_registry (h : Hub) (i : Nat) : h.setRegistry i (h.registry i) = h := by
  rw [setRegistry, registry, set_getD]

theorem length_setRegistry (h : Hub) (i : Nat) (r : Registry) :
    (h.setRegistry i r).registries.length = h.registries.length :=
  List.length_set

theorem factsAt_setFacts_self (h : Hub) {i : Nat} (hi : i < h.facts.length) (f : Facts) :
    (h.setFacts i f).factsAt i = f := by
  rw [factsAt, setFacts, List.getD_eq_getElem?_getD, List.getElem?_set_self hi]
  rfl

theorem factsAt_setFacts_of_ne (h : Hub) {i j : Nat} (hij : i ≠ j) (f : Facts) :
    (h.setFacts i f).factsAt j = h.factsAt j := by
  rw [factsAt, setFacts, List.getD_eq_getElem?_getD, List.getElem?_set_ne hij,
    ← List.getD_eq_getElem?_getD]
  rfl

theorem factsAt_setFacts {h : Hub} {i : Nat} (hi : i < h.facts.length) (j : Nat) (f : Facts) :
    (h.setFacts j f).factsAt i = if j = i then f else h.factsAt i := by
  by_cases hj : j = i
  · subst hj
    rw [if_pos rfl, factsAt_setFacts_self h hi]
  · rw [if_neg hj, factsAt_setFacts_of_ne h hj]

theorem setFacts_factsAt (h : Hub) (i : Nat) : h.setFacts i (h.factsAt i) = h := by
  rw [setFacts, factsAt, set_getD]

theorem length_setFacts (h : Hub) (i : Nat) (f : Facts) :
    (h.setFacts i f).facts.length = h.facts.length :=
  List.length_set

/-- A number under which a tracker is found is in use. -/
theorem lt_of_tracker {h : Hub} {i : Nat} (ht : (h.registry i).tracker = true) :
    i < h.registries.length := by
  obtain hlt | hge := Nat.lt_or_ge i h.registries.length
  · exact hlt
  · rw [registry, List.getD_eq_getElem?_getD, List.getElem?_eq_none hge] at ht
    simp [Registry.empty] at ht

end UsageMeter.Hub
