import UsageMeter.Proofs.Registry.Reach

/-!
The drain of all names against drains of one name. Draining every listed name in turn reads and
leaves exactly what the drain of all names reads and leaves, and until the next increment every
further drain reads zero.
-/
namespace UsageMeter.Registry
variable {r : Registry}

/-- Drains some names one after the other, and lists what each of them gave. -/
def drainNames : List String → Registry → Registry × List (String × Nat)
  | [], r => (r, [])
  | name :: names, r =>
    let (r', value) := r.drain name
    let (r'', read) := drainNames names r'
    (r'', (name, value) :: read)

theorem drainNames_cons (name : String) (names : List String) (r : Registry) :
    drainNames (name :: names) r = ((drainNames names (r.drain name).1).1,
      (name, (r.drain name).2) :: (drainNames names (r.drain name).1).2) :=
  rfl

/-! ## All names -/

/-- Draining entries is draining their names, as long as each name leads to its entry. A drain
keeps it so, because it changes values only. -/
theorem drainEntries_eq_drainNames {es : List (String × Nat)}
    (hf : ∀ e ∈ es, r.find? e.1 = some e.2)
    (hb : ∀ e ∈ es, (r.counters[e.2]?).map Counter.name = some e.1) :
    drainEntries es r = drainNames (es.map Prod.fst) r := by
  induction es generalizing r with
  | nil => rfl
  | cons e es ih =>
    obtain ⟨name, i⟩ := e
    obtain ⟨c, hc, hn⟩ := Option.map_eq_some_iff.1 (hb (name, i) (by simp))
    have hdrain : r.drain name = (r.modifyAt i Counter.drained, c.value) := by
      have hi : r.find? name = some i := hf (name, i) (by simp)
      simp only [drain, hi, drainAt, valueAt, hc]
    have hrest := ih (r := r.modifyAt i Counter.drained)
      (fun e he => hf e (by simp [he]))
      (fun e he => (map_name_drained i e.2).trans (hb e (by simp [he])))
    rw [drainEntries_cons es hc, List.map_cons, drainNames_cons, hdrain, hrest, hn]

/-- Draining the listed names in turn is the drain of all names. -/
theorem Sound.drainNames_names (h : r.Sound) :
    drainNames r.names r = (r.drainAll.1, r.snapshot.toList) := by
  have hsame : drainEntries r.entries r = drainNames r.names r := by
    rw [h.names_eq]
    exact drainEntries_eq_drainNames (fun _ he => h.find?_of_mem he) h.bears
  have hread : (drainEntries r.entries r).2 = r.snapshot.toList :=
    h.drainEntries_entries.1.trans h.entries_snapshot.symm
  rw [← hsame, ← hread]
  rfl

theorem Sound.toList_snapshot (h : r.Sound) :
    r.snapshot.toList = r.names.map fun name => (name, r.get name) :=
  h.entries_snapshot.trans h.pairs_eq

/-! ## One name -/

theorem drain_of_not_mem (h : r.Sound) {name : String} (hn : name ∉ r.names) :
    r.drain name = (r, 0) := by
  rw [h.names_eq, ← find?_eq_none_iff] at hn
  rw [drain, hn]

/-- A drain leaves every counter alone but the live one of the name. -/
theorem counters_drain {name : String} {j : Nat} (hj : r.find? name ≠ some j) :
    (r.drain name).1.counters[j]? = r.counters[j]? := by
  rw [drain]
  cases hf : r.find? name with
  | none => rfl
  | some i =>
    have hij : i ≠ j := fun he => hj (hf.trans (congrArg some he))
    simp [drainAt, modifyAt, hij]

theorem entries_drain (r : Registry) (name : String) : (r.drain name).1.entries = r.entries := by
  rw [drain]
  cases r.find? name <;> rfl

/-! ## Without increments -/

/-- The operations that can add to a value. -/
def Op.isIncrement : Op → Bool
  | .increment _ _ => true
  | .record _ => true
  | .incrementAt _ _ => true
  | _ => false

theorem get_step_le (h : r.Sound) {op : Op} (hop : op.isIncrement = false) (name : String) :
    (step op r).1.get name ≤ r.get name := by
  cases op with
  | increment _ _ | record _ | incrementAt _ _ => cases hop
  | register n => exact Nat.le_of_eq (h.get_register n name)
  | drain n =>
    change (r.drain n).1.get name ≤ _
    rw [h.get_drain]
    split
    · exact Nat.zero_le _
    · exact Nat.le_refl _
  | drainAll =>
    change r.drainAll.1.get name ≤ _
    rw [h.get_drainAll]
    exact Nat.zero_le _
  | clear => exact Nat.zero_le _
  | drainAt i =>
    change (r.modifyAt i Counter.drained).get name ≤ _
    rw [get_drained]
    split
    · exact Nat.zero_le _
    · exact Nat.le_refl _
  | get _ | snapshot | names | contains _ | size | getAt _ => exact Nat.le_refl _

/-- What is zero stays zero until an increment. -/
theorem get_run_eq_zero {ops : List Op} (h : r.Sound) (hops : ∀ op ∈ ops, op.isIncrement = false)
    {name : String} (hz : r.get name = 0) : (run ops r).get name = 0 := by
  induction ops generalizing r with
  | nil => exact hz
  | cons op ops ih =>
    have hle := get_step_le h (hops op (by simp)) name
    exact ih (sound_step h op) (fun o ho => hops o (by simp [ho])) (by omega)

/-- In every reachable registry the drain of all names gives what a snapshot would have given, which
is what drains of the listed names in turn give, and both leave the same registry: the same names in
the same order, all with the value zero. A drain of one name gives its value and leaves zero there
and every other counter as it was; of an unknown name it gives zero and changes nothing. After a
drain of either kind a second one of either kind reads only zeros of what was drained, whatever
happens in between but increments. -/
theorem bulk_and_single_drains_agree (r : Registry) (hr : r.Reachable) :
    let all := r.drainAll
    (all.2 = r.snapshot ∧ drainNames r.names r = (all.1, all.2.toList) ∧
      all.1.names = r.names ∧ all.1.pairs = r.names.map fun name => (name, 0)) ∧
    (∀ name, let one := r.drain name
      one.2 = r.get name ∧ one.1.names = r.names ∧ one.1.entries = r.entries ∧
      (∀ other, one.1.get other = if other = name then 0 else r.get other) ∧
      (∀ j : Nat, r.find? name ≠ some j → one.1.counters[j]? = r.counters[j]?) ∧
      (name ∉ r.names → one = (r, 0))) ∧
    ∀ ops : List Op, (∀ op ∈ ops, op.isIncrement = false) →
      (∀ name, ((run ops all.1).drain name).2 = 0) ∧
      (∀ e ∈ (run ops all.1).drainAll.2.toList, e.2 = 0) ∧
      ∀ name, ((run ops (r.drain name).1).drain name).2 = 0 ∧
        ((run ops (r.drain name).1).drainAll.2.get? name).getD 0 = 0 := by
  intro all
  have hsound := hr.sound
  have hall : all.1.Sound := hsound.drainAll
  have hread : all.2 = r.snapshot := hsound.drainAll_snd
  have hzero : ∀ name, all.1.get name = 0 := hsound.get_drainAll
  refine ⟨⟨hread, ?_, hsound.names_drainAll, ?_⟩, ?_, ?_⟩
  · rw [hread]
    exact hsound.drainNames_names
  · rw [hall.pairs_eq, hsound.names_drainAll]
    simp only [hzero]
  · intro name one
    exact ⟨drain_snd r name, hsound.names_drain name, entries_drain r name,
      hsound.get_drain name, fun _ => counters_drain, drain_of_not_mem hsound⟩
  · intro ops hops
    have hlater : ∀ name, (run ops all.1).get name = 0 :=
      fun name => get_run_eq_zero hall hops (hzero name)
    refine ⟨fun name => (drain_snd _ name).trans (hlater name), ?_, ?_⟩
    · intro e he
      rw [(sound_run hall ops).drainAll_snd, (sound_run hall ops).toList_snapshot] at he
      obtain ⟨name, -, rfl⟩ := List.mem_map.1 he
      exact hlater name
    · intro name
      have hone : (r.drain name).1.get name = 0 := by
        rw [hsound.get_drain, if_pos rfl]
      have hdrained : (run ops (r.drain name).1).get name = 0 :=
        get_run_eq_zero (hsound.drain name) hops hone
      have hs := sound_run (hsound.drain name) ops
      refine ⟨(drain_snd _ name).trans hdrained, ?_⟩
      rw [hs.drainAll_snd, hs.getD_snapshot, hdrained]

/-- A registry with two live counters, and one that was cleared away and counts on. -/
def clearedOnce : Registry :=
  run [.increment "jobs" (.int 4), .clear, .increment "flags" (.int 2), .register "jobs",
    .incrementAt 0 (.int 3), .increment "jobs" (.int 5)] (made metricKind false)

theorem cleared_once_drained :
    let all := clearedOnce.drainAll
    let one := clearedOnce.drain "jobs"
    let between : List Op := [.names, .register "nodes", .drainAt 0]
    all.2.toList = [("flags", 2), ("jobs", 5)] ∧
    drainNames ["flags", "jobs"] clearedOnce = (all.1, [("flags", 2), ("jobs", 5)]) ∧
    one.2 = 5 ∧ one.1.get "flags" = 2 ∧ one.1.valueAt 0 = 7 ∧
    clearedOnce.drain "nodes" = (clearedOnce, 0) ∧
    ((run between all.1).drain "jobs").2 = 0 ∧ ((run between one.1).drain "jobs").2 = 0 := by
  intro all one between
  have hr : clearedOnce.Reachable := ⟨metricKind, false, _, rfl⟩
  have hread : clearedOnce.snapshot.toList = [("flags", 2), ("jobs", 5)] := by decide
  obtain ⟨⟨hall, heach, -, -⟩, hone, hagain⟩ := bulk_and_single_drains_agree clearedOnce hr
  obtain ⟨hvalue, -, -, hothers, hcounters, -⟩ := hone "jobs"
  obtain ⟨-, -, -, -, -, hunknown⟩ := hone "nodes"
  obtain ⟨hafterAll, -, hafterOne⟩ := hagain between (by decide)
  have hlist : all.2.toList = [("flags", 2), ("jobs", 5)] := by rw [hall, hread]
  refine ⟨hlist, ?_, hvalue.trans (by decide), (hothers "flags").trans (by decide), ?_,
    hunknown (by decide), hafterAll "jobs", (hafterOne "jobs").1⟩
  · rw [← hlist]
    exact heach
  · rw [valueAt, hcounters 0 (by decide)]
    decide

end UsageMeter.Registry
