import UsageMeter.Proofs.Registry.Step

/-!
Draining and clearing. A drain of one name gives its value and leaves zero there; the drain of all
names gives what a snapshot would have given and leaves zero everywhere, with every name in its
place. Only a clear forgets names.
-/
namespace UsageMeter.Registry
variable {r : Registry}

/-! ## One name -/

theorem drain_snd (r : Registry) (name : String) : (r.drain name).2 = r.get name := by
  rw [drain, get]
  cases r.find? name <;> rfl

theorem Sound.drainAt (h : r.Sound) (i : Nat) : (r.drainAt i).1.Sound :=
  h.modifyAt i fun _ => rfl

theorem Sound.names_drainAt (h : r.Sound) (i : Nat) : (r.drainAt i).1.names = r.names :=
  h.names_modifyAt i fun _ => rfl

theorem Sound.drain (h : r.Sound) (name : String) : (r.drain name).1.Sound := by
  rw [Registry.drain]
  cases r.find? name with
  | none => exact h
  | some i => exact h.drainAt i

theorem Sound.names_drain (h : r.Sound) (name : String) : (r.drain name).1.names = r.names := by
  rw [Registry.drain]
  cases r.find? name with
  | none => rfl
  | some i => exact h.names_drainAt i

theorem Sound.get_drain (h : r.Sound) (name other : String) :
    (r.drain name).1.get other = if other = name then 0 else r.get other := by
  rw [Registry.drain]
  cases hf : r.find? name with
  | none =>
    by_cases hne : other = name
    · rw [if_pos hne, hne]
      exact get_eq_zero_of_find?_eq_none hf
    · rw [if_neg hne]
  | some i =>
    change (r.modifyAt i Counter.drained).get other = _
    rw [get_drained]
    by_cases hne : other = name
    · rw [if_pos hne, hne, if_pos hf]
    · rw [if_neg hne, if_neg fun ho => hne (h.eq_of_find? ho hf)]

/-! ## Every name -/

/-- The entry keeps its counter's name while others are drained. -/
theorem map_name_drained (i j : Nat) :
    ((r.modifyAt i Counter.drained).counters[j]?).map Counter.name =
      (r.counters[j]?).map Counter.name := by
  rw [modifyAt, List.getElem?_modify]
  cases r.counters[j]? with
  | none => rfl
  | some c =>
    by_cases h : i = j
    · simp [h, Counter.drained]
    · simp [h]

theorem drainEntries_cons {name : String} {i : Nat} {c : Counter} (es : List (String × Nat))
    (hc : r.counters[i]? = some c) :
    drainEntries ((name, i) :: es) r =
      ((drainEntries es (r.modifyAt i Counter.drained)).1,
        (c.name, c.value) :: (drainEntries es (r.modifyAt i Counter.drained)).2) := by
  rw [drainEntries]
  simp only [hc]

/-- Draining a list of entries of different counters reads each value as it was before, changes
no entry and no name, and leaves zero under the drained ones alone. -/
theorem drainEntries_spec (es : List (String × Nat))
    (hb : ∀ e ∈ es, (r.counters[e.2]?).map Counter.name = some e.1)
    (hd : (es.map Prod.snd).Nodup) :
    (drainEntries es r).2 = es.map (fun e => (e.1, r.valueAt e.2)) ∧
      (drainEntries es r).1.entries = r.entries ∧
      (∀ j : Nat, ((drainEntries es r).1.counters[j]?).map Counter.name =
        (r.counters[j]?).map Counter.name) ∧
      ∀ j : Nat, (drainEntries es r).1.valueAt j =
        if j ∈ es.map Prod.snd then 0 else r.valueAt j := by
  induction es generalizing r with
  | nil => simp [drainEntries]
  | cons e es ih =>
    obtain ⟨name, i⟩ := e
    obtain ⟨c, hc, hn⟩ := Option.map_eq_some_iff.1 (hb (name, i) (by simp))
    rw [List.map_cons, List.nodup_cons] at hd
    obtain ⟨hread, hentries, hnames, hvalues⟩ := ih (r := r.modifyAt i Counter.drained)
      (fun e he => (map_name_drained i e.2).trans (hb e (by simp [he]))) hd.2
    rw [drainEntries_cons es hc]
    refine ⟨?_, hentries, fun j => (hnames j).trans (map_name_drained i j), ?_⟩
    · have hrest : ∀ e ∈ es, (r.modifyAt i Counter.drained).valueAt e.2 = r.valueAt e.2 := by
        intro e he
        have hm : e.2 ∈ es.map Prod.snd := List.mem_map_of_mem he
        have hne : i ≠ e.2 := fun hi => hd.1 (by simpa [hi] using hm)
        rw [valueAt_modifyAt, if_neg hne]
      have hmap : es.map (fun e => (e.1, (r.modifyAt i Counter.drained).valueAt e.2)) =
          es.map fun e => (e.1, r.valueAt e.2) :=
        List.map_congr_left fun e he => by rw [hrest e he]
      have hv : c.value = r.valueAt i := by simp only [valueAt, hc]
      rw [List.map_cons, hread, hmap, hn, hv]
    · intro j
      rw [hvalues j, valueAt_modifyAt]
      by_cases hj : j ∈ es.map Prod.snd
      · simp [hj]
      · by_cases hij : i = j
        · subst hij
          simp [hj, hc, Counter.drained]
        · simp [hj, hij, Ne.symm hij]

namespace Sound

theorem nodup_map_snd (h : r.Sound) : (r.entries.map Prod.snd).Nodup := by
  rw [List.nodup_map_iff_inj_on (List.Nodup.of_map _ h.distinct)]
  intro a ha b hb hab
  have hn : a.1 = b.1 := h.name_eq_of_mem ha (by rw [hab]; exact hb)
  exact Prod.ext hn hab

/-- What the drain of all names leaves and gives. -/
theorem drainEntries_entries (h : r.Sound) :
    (drainEntries r.entries r).2 = r.pairs ∧
      (drainEntries r.entries r).1.entries = r.entries ∧
      (drainEntries r.entries r).1.Sound ∧
      ∀ name, (drainEntries r.entries r).1.get name = 0 := by
  obtain ⟨hread, hentries, hnames, hvalues⟩ :=
    drainEntries_spec r.entries h.bears h.nodup_map_snd
  refine ⟨hread.trans h.live_eq.symm, hentries, ⟨?_, ?_⟩, ?_⟩
  · intro e he
    rw [hnames]
    exact h.bears e (hentries ▸ he)
  · rw [hentries]
    exact h.distinct
  · intro name
    have hf : (drainEntries r.entries r).1.find? name = r.find? name := by
      rw [find?, hentries, find?]
    rw [get, hf]
    cases hi : r.find? name with
    | none => rfl
    | some i =>
      have hm : i ∈ r.entries.map Prod.snd := List.mem_map_of_mem (mem_entries_of_find? hi)
      simp [hvalues, hm]

theorem drainAll (h : r.Sound) : r.drainAll.1.Sound :=
  h.drainEntries_entries.2.2.1

theorem drainAll_snd (h : r.Sound) : r.drainAll.2 = r.snapshot := by
  have he : r.drainAll.2 = Table.ofList (drainEntries r.entries r).2 := rfl
  rw [he, h.drainEntries_entries.1, snapshot]

theorem names_drainAll (h : r.Sound) : r.drainAll.1.names = r.names := by
  have he : r.drainAll.1.entries = r.entries := h.drainEntries_entries.2.1
  rw [h.drainAll.names_eq, h.names_eq, he]

theorem get_drainAll (h : r.Sound) (name : String) : r.drainAll.1.get name = 0 :=
  h.drainEntries_entries.2.2.2 name

end Sound

/-! ## Clearing -/

theorem sound_clear (r : Registry) : r.clear.Sound :=
  sound_of_entries_eq_nil rfl

end UsageMeter.Registry
