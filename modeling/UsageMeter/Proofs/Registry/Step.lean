import UsageMeter.Proofs.Registry.View

/-!
What each operation on a registry does to names and values. Registering puts a new name at the end
and changes no value; an accepted increment adds to one name; a drain gives the value and leaves
zero; and all of them leave the entries sound. Nothing but a clear takes a name away.
-/
namespace UsageMeter

/-- What an increment is worth: an integer from zero up counts, and nothing else does. -/
def accepted : Value → Int
  | .int i => if 0 ≤ i then i else 0
  | _ => 0

/-- The values that are accepted as increments. -/
def Acceptable (v : Value) : Prop :=
  ∃ i : Int, 0 ≤ i ∧ v = .int i

theorem increment?_cases (v : Value) :
    (∃ k : Nat, increment? v = .ok k ∧ accepted v = k ∧ Acceptable v) ∨
      (∃ e, increment? v = .error e ∧ accepted v = 0 ∧ ¬Acceptable v) := by
  cases v with
  | int i =>
    by_cases hi : i < 0
    · have hn : ¬0 ≤ i := by omega
      refine Or.inr ⟨.negative i, by simp [increment?, hi], by simp [accepted, hn], ?_⟩
      rintro ⟨j, hj, he⟩
      cases he
      omega
    · refine Or.inl ⟨i.toNat, by simp [increment?, hi], ?_, i, by omega, rfl⟩
      simp only [accepted]
      omega
  | _ => exact Or.inr ⟨_, rfl, rfl, by simp [Acceptable]⟩

namespace Registry
variable {r : Registry}

/-! ## Registering -/

theorem register_of_some {name : String} {i : Nat} (h : r.find? name = some i) :
    r.register name = (r, i) := by
  rw [register, h]

theorem register_of_none {name : String} (h : r.find? name = none) :
    r.register name = (⟨r.kind, r.tracker, r.counters ++ [Counter.fresh name],
      r.entries ++ [(name, r.counters.length)]⟩, r.counters.length) := by
  rw [register, h]

theorem find?_register_self (name : String) :
    (r.register name).1.find? name = some (r.register name).2 := by
  cases h : r.find? name with
  | some i => rw [register_of_some h, h]
  | none =>
    rw [register_of_none h]
    rw [find?] at h
    simp [find?, List.lookup_append, h]

theorem find?_register_of_ne {name other : String} (hne : other ≠ name) :
    (r.register name).1.find? other = r.find? other := by
  cases h : r.find? name with
  | some i => rw [register_of_some h]
  | none =>
    have hb : (other == name) = false := by simpa using hne
    rw [register_of_none h]
    simp [find?, List.lookup_append, List.lookup_cons, hb]

namespace Sound

theorem register (h : r.Sound) (name : String) : (r.register name).1.Sound := by
  cases hf : r.find? name with
  | some i => rwa [register_of_some hf]
  | none =>
    rw [register_of_none hf]
    refine ⟨?_, ?_⟩
    · intro e he
      obtain he | he := List.mem_append.1 he
      · rw [List.getElem?_append_left (h.lt_of_mem he)]
        exact h.bears e he
      · rw [List.mem_singleton.1 he]
        simp [Counter.fresh]
    · rw [List.map_append, List.nodup_append]
      refine ⟨h.distinct, by simp, ?_⟩
      rintro a ha b hb rfl
      simp only [List.map_cons, List.map_nil, List.mem_singleton] at hb
      exact find?_eq_none_iff.1 hf (hb ▸ ha)

theorem names_register (h : r.Sound) (name : String) :
    (r.register name).1.names = enlist r.names name := by
  rw [(h.register name).names_eq, h.names_eq, enlist]
  cases hf : r.find? name with
  | some i =>
    rw [register_of_some hf, if_pos (List.mem_map_of_mem (mem_entries_of_find? hf))]
  | none =>
    rw [register_of_none hf, if_neg (find?_eq_none_iff.1 hf), List.map_append]
    rfl

theorem get_register (h : r.Sound) (name other : String) :
    (r.register name).1.get other = r.get other := by
  cases hf : r.find? name with
  | some i => rw [register_of_some hf]
  | none =>
    by_cases hne : other = name
    · have hs := find?_register_self (r := r) name
      subst hne
      rw [get_eq_zero_of_find?_eq_none hf, get, hs, register_of_none hf]
      simp [valueAt, Counter.fresh]
    · rw [get, get, find?_register_of_ne hne, register_of_none hf]
      cases ho : r.find? other with
      | none => rfl
      | some i =>
        have hlt := h.lt_of_mem (mem_entries_of_find? ho)
        simp only [valueAt, List.getElem?_append_left hlt]

end Sound

/-! ## Changing one counter -/

theorem valueAt_modifyAt (i j : Nat) (f : Counter → Counter) :
    (r.modifyAt i f).valueAt j =
      if i = j then ((r.counters[i]?).map fun c => (f c).value).getD 0 else r.valueAt j := by
  simp only [valueAt, modifyAt, List.getElem?_modify]
  by_cases h : i = j
  · subst h
    cases r.counters[i]? <;> simp
  · simp [h]

theorem get_drained (i : Nat) (name : String) :
    (r.modifyAt i Counter.drained).get name = if r.find? name = some i then 0 else r.get name := by
  have hf : (r.modifyAt i Counter.drained).find? name = r.find? name := rfl
  rw [get, get, hf]
  cases r.find? name with
  | none => simp
  | some j =>
    simp only [valueAt_modifyAt, Option.some.injEq]
    by_cases h : i = j
    · subst h
      cases r.counters[i]? <;> simp [Counter.drained]
    · simp [h, Ne.symm h]

namespace Sound

theorem modifyAt (h : r.Sound) (i : Nat) {f : Counter → Counter} (hf : ∀ c, (f c).name = c.name) :
    (r.modifyAt i f).Sound := by
  refine ⟨?_, h.distinct⟩
  intro e he
  have hb := h.bears e he
  rw [Registry.modifyAt, List.getElem?_modify]
  by_cases hi : i = e.2
  · rw [← hb]
    cases r.counters[e.2]? <;> simp [hi, hf]
  · simpa [hi] using hb

theorem names_modifyAt (h : r.Sound) (i : Nat) {f : Counter → Counter}
    (hf : ∀ c, (f c).name = c.name) : (r.modifyAt i f).names = r.names := by
  rw [(h.modifyAt i hf).names_eq, h.names_eq]
  rfl

theorem get_add (h : r.Sound) (i k : Nat) (name : String) :
    (r.modifyAt i (Counter.add k)).get name =
      r.get name + if r.find? name = some i then k else 0 := by
  have hf : (r.modifyAt i (Counter.add k)).find? name = r.find? name := rfl
  rw [get, get, hf]
  cases ho : r.find? name with
  | none => simp
  | some j =>
    simp only [valueAt_modifyAt, Option.some.injEq]
    by_cases hij : i = j
    · subst hij
      obtain ⟨c, hc, _⟩ := h.counter_of_find? ho
      simp [hc, valueAt, Counter.add]
    · simp [hij, Ne.symm hij]

end Sound

/-! ## Incrementing -/

theorem incrementAt_cases (r : Registry) (i : Nat) (v : Value) :
    (∃ k : Nat, r.incrementAt i v = (r.modifyAt i (Counter.add k), .ok ()) ∧ accepted v = k ∧
      Acceptable v) ∨
    (∃ e, r.incrementAt i v = (r, .error e) ∧ accepted v = 0 ∧ ¬Acceptable v) := by
  obtain ⟨k, hk, ha, hv⟩ | ⟨e, he, ha, hv⟩ := increment?_cases v
  · exact Or.inl ⟨k, by rw [incrementAt, hk], ha, hv⟩
  · exact Or.inr ⟨e, by rw [incrementAt, he], ha, hv⟩

theorem increment_eq (r : Registry) (name : String) (v : Value) :
    r.increment name v = (r.register name).1.incrementAt (r.register name).2 v :=
  rfl

namespace Sound

theorem incrementAt (h : r.Sound) (i : Nat) (v : Value) : (r.incrementAt i v).1.Sound := by
  obtain ⟨k, hk, -⟩ | ⟨e, he, -⟩ := incrementAt_cases r i v
  · rw [hk]
    exact h.modifyAt i fun _ => rfl
  · rwa [he]

theorem names_incrementAt (h : r.Sound) (i : Nat) (v : Value) :
    (r.incrementAt i v).1.names = r.names := by
  obtain ⟨k, hk, -⟩ | ⟨e, he, -⟩ := incrementAt_cases r i v
  · rw [hk]
    exact h.names_modifyAt i fun _ => rfl
  · rw [he]

theorem get_incrementAt (h : r.Sound) (i : Nat) (v : Value) (name : String) :
    ((r.incrementAt i v).1.get name : Int) =
      r.get name + if r.find? name = some i then accepted v else 0 := by
  obtain ⟨k, hk, ha, -⟩ | ⟨e, he, ha, -⟩ := incrementAt_cases r i v
  · rw [hk, h.get_add, ha]
    split <;> simp
  · rw [he, ha]
    simp

theorem increment (h : r.Sound) (name : String) (v : Value) : (r.increment name v).1.Sound := by
  rw [increment_eq]
  exact (h.register name).incrementAt _ v

theorem names_increment (h : r.Sound) (name : String) (v : Value) :
    (r.increment name v).1.names = enlist r.names name := by
  rw [increment_eq, (h.register name).names_incrementAt, h.names_register]

theorem get_increment (h : r.Sound) (name : String) (v : Value) (other : String) :
    ((r.increment name v).1.get other : Int) =
      r.get other + if other = name then accepted v else 0 := by
  rw [increment_eq, (h.register name).get_incrementAt, h.get_register]
  have hs := find?_register_self (r := r) name
  by_cases hne : other = name
  · rw [hne, hs]
    simp
  · have ho : (r.register name).1.find? other ≠ some (r.register name).2 := by
      intro he
      exact hne ((h.register name).eq_of_find? he hs)
    simp [hne, ho]

end Sound
end Registry
end UsageMeter
