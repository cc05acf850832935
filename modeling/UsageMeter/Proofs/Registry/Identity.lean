import UsageMeter.Proofs.Registry.Detached

/-!
Counters as objects. Until the next clear, the counter that a name was registered with and the name
itself are two ways to the same thing. After it they have nothing to do with each other: the counter
goes on by itself, and the name gets another one.
-/
namespace UsageMeter.Registry

/-! ## By name and by place -/

/-- Two operations that do, give and report the same. -/
def Alike (r : Registry) (a b : Op) : Prop :=
  step a r = step b r ∧ events a r = events b r

/-- Whoever calls for a name gets the counter, and operations on either are the same. -/
structure Joined (r : Registry) (name : String) (i : Nat) : Prop where
  register : step (.register name) r = (r, .counter i) ∧ events (.register name) r = []
  increment : ∀ v, Alike r (.increment name v) (.incrementAt i v)
  record : r.tracker = true → Alike r (.record name) (.incrementAt i (.int 1))
  get : Alike r (.get name) (.getAt i)
  drain : Alike r (.drain name) (.drainAt i)

theorem joined_of_find? {r : Registry} {name : String} {i : Nat} (hf : r.find? name = some i) :
    Joined r name i := by
  have hregister : r.register name = (r, i) := register_of_some hf
  have hquiet : r.registering name = [] := by
    rw [registering, contains, hf]
    rfl
  refine ⟨⟨?_, hquiet⟩, fun v => ⟨?_, hquiet⟩, fun ht => ⟨?_, ?_⟩, ⟨?_, rfl⟩, ⟨?_, rfl⟩⟩
  · rw [step, hregister]
  · rw [step, increment_eq, hregister]
    rfl
  · rw [step, record_eq_of_tracker ht, increment_eq, hregister]
    rfl
  · rw [events, if_pos ht, hquiet]
    rfl
  · rw [step, Registry.get, hf]
    rfl
  · rw [step, Registry.drain, hf]
    rfl

theorem find?_step {r : Registry} {name : String} {i : Nat} (hf : r.find? name = some i) {op : Op}
    (hc : op.isClear = false) : (step op r).1.find? name = some i := by
  obtain ⟨added, hadded, -⟩ := (grows_step op hc r).entries
  rw [find?] at hf
  rw [find?, hadded, List.lookup_append, hf]
  rfl

theorem find?_run {r : Registry} {name : String} {i : Nat} (hf : r.find? name = some i)
    {ops : List Op} (hc : ∀ op ∈ ops, op.isClear = false) : (run ops r).find? name = some i := by
  induction ops generalizing r with
  | nil => exact hf
  | cons op ops ih =>
    exact ih (find?_step hf (hc op (by simp))) fun o ho => hc o (by simp [ho])

/-! ## Apart -/

/-- A counter that is its holder's alone, whatever is done from here on. Nothing that the registry
does, gives or reports depends on the operations on it, and it depends on nothing else. -/
structure Released (r : Registry) (i : Nat) : Prop where
  unlisted : ∀ ops, i ∉ (run ops r).entries.map Prod.snd
  ignored : ∀ ops,
    let others := ops.filter fun op => !op.onCounter i
    (run ops r).entries = (run others r).entries ∧
    (∀ j, j ≠ i → (run ops r).counters[j]? = (run others r).counters[j]?) ∧
    ((history ops r).filter fun p => !p.onCounter i).map Performed.told =
      (history others r).map Performed.told
  alone : ∃ c, r.counters[i]? = some c ∧ ∀ ops,
    let own := ops.filter (Op.onCounter i)
    (run ops r).counters[i]? = some (lived own c) ∧
    ((history ops r).filter (Performed.onCounter i)).map Performed.answer = answersAlone own c

theorem Detached.released {r : Registry} {i : Nat} (hd : Detached r i) : Released r i := by
  obtain ⟨c, hc⟩ : ∃ c, r.counters[i]? = some c := ⟨_, List.getElem?_eq_getElem hd.made⟩
  have hsplit := fun ops => hd.run_splits ops c
  simp only [withCounter_self hc] at hsplit
  refine ⟨fun ops => (hd.run ops).unlisted, fun ops => ?_, c, hc, fun ops => ?_⟩
  · obtain ⟨hrun, htold, -⟩ := hsplit ops
    refine ⟨?_, ?_, htold⟩
    · rw [hrun]
      rfl
    · intro j hj
      rw [hrun, counters_withCounter_of_ne hj]
  · obtain ⟨hrun, -, hown⟩ := hsplit ops
    refine ⟨?_, hown⟩
    have hi := (hd.run (ops.filter fun op => !op.onCounter i)).made
    rw [hrun, withCounter, List.getElem?_set_self hi]

/-- A name that is called for and not there gets a counter that did not exist, from zero. -/
structure Anew (r : Registry) (name : String) (i : Nat) : Prop where
  absent : r.counters[i]? = none
  register : step (.register name) r = ((r.register name).1, .counter i)
  fresh : (r.register name).1.counters[i]? = some ⟨name, 0⟩
  increment : ∀ v, step (.increment name v) r = step (.incrementAt i v) (r.register name).1
  record : r.tracker = true →
    step (.record name) r = step (.incrementAt i (.int 1)) (r.register name).1

theorem Sound.anew {r : Registry} (h : r.Sound) {name : String} (hn : name ∉ r.names) :
    Anew r name r.counters.length := by
  rw [h.names_eq, ← find?_eq_none_iff] at hn
  have hregister := register_of_none hn
  have hplace : (r.register name).2 = r.counters.length := by rw [hregister]
  refine ⟨by simp, ?_, ?_, fun v => ?_, fun ht => ?_⟩
  · rw [step, ← hplace]
  · rw [hregister]
    simp [Counter.fresh]
  · rw [step, increment_eq, hplace]
    rfl
  · rw [step, record_eq_of_tracker ht, increment_eq, hplace]
    rfl

theorem length_counters_run (ops : List Op) (r : Registry) :
    r.counters.length ≤ (run ops r).counters.length := by
  induction ops generalizing r with
  | nil => exact Nat.le_refl _
  | cons op ops ih =>
    have hstep : r.counters.length ≤ (step op r).1.counters.length := by
      cases hc : op.isClear with
      | false => exact (grows_step op hc r).counters
      | true =>
        cases op <;> simp [Op.isClear] at hc
        exact Nat.le_refl _
    exact hstep.trans (ih (step op r).1)

/-- In every state that a new registry reaches by operations by name and on counters, live or not,
each entry's counter bears the name of the entry, and no counter has two entries. Until the next
clear, a name that was registered gives the same counter again, and operations by name and on that
counter are the same. From a clear on, every counter made before it is its holder's alone, and a
name that is not there again gets one that did not exist, from zero. -/
theorem counters_keep_identity (kind : String) (tracker : Bool) (ops : List Op) :
    let r := run ops (made kind tracker)
    (∀ e ∈ r.entries, (r.counters[e.2]?).map Counter.name = some e.1) ∧
    (r.entries.map Prod.snd).Nodup ∧
    (∀ name more, (∀ op ∈ more, op.isClear = false) →
      Joined (run more (r.register name).1) name (r.register name).2) ∧
    r.clear.names = [] ∧
    (∀ i, i < r.counters.length → Released r.clear i) ∧
    ∀ more name, name ∉ (run more r.clear).names →
      ∃ k, r.counters.length ≤ k ∧ Anew (run more r.clear) name k := by
  intro r
  have hsound : r.Sound := sound_run (sound_made kind tracker) ops
  refine ⟨hsound.bears, hsound.nodup_map_snd, ?_, rfl, fun i hi => (detached_clear hi).released, ?_⟩
  · intro name more hc
    exact joined_of_find? (find?_run (find?_register_self name) hc)
  · intro more name hn
    have hcleared : (run more r.clear).Sound := sound_run (sound_clear r) more
    exact ⟨_, length_counters_run more r.clear, hcleared.anew hn⟩

theorem jobs_counted_apart :
    let r := run [.register "jobs", .incrementAt 0 (.int 5)] (made metricKind false)
    let q := run [.incrementAt 0 (.int 2), .names] r.clear
    step (.register "jobs") r = (r, .counter 0) ∧ r.get "jobs" = 5 ∧
    q.counters[0]? = some ⟨"jobs", 7⟩ ∧ q.get "jobs" = 0 ∧
    ∃ k, 1 ≤ k ∧ (step (.register "jobs") q).2 = .counter k ∧
      (q.register "jobs").1.counters[k]? = some ⟨"jobs", 0⟩ := by
  intro r q
  obtain ⟨-, -, hjoined, -, hreleased, hanew⟩ := counters_keep_identity metricKind false
    [.register "jobs", .incrementAt 0 (.int 5)]
  have hlive : Joined r "jobs" 0 := hjoined "jobs" [] (by simp)
  obtain ⟨c, hc, halone⟩ := (hreleased 0 (by decide)).alone
  cases hc
  obtain ⟨hvalue, -⟩ := halone [.incrementAt 0 (.int 2), .names]
  obtain ⟨k, hk, hnew⟩ := hanew [.incrementAt 0 (.int 2), .names] "jobs" (by decide)
  exact ⟨hlive.register.1, by decide, hvalue, by decide, k, hk, congrArg Prod.snd hnew.register,
    hnew.fresh⟩

end UsageMeter.Registry
