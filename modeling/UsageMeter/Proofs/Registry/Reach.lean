import UsageMeter.Proofs.Registry.Drain

/-!
Reachable registries: those that a new registry becomes by operations by name and on counters, live
or not. All of them are sound, and a tracker stays one.
-/
namespace UsageMeter.Registry

/-- A new registry of any kind, which may be a tracker. -/
def made (kind : String) (tracker : Bool) : Registry :=
  ⟨kind, tracker, [], []⟩

/-- What becomes of a new registry by some operations. -/
def Reachable (r : Registry) : Prop :=
  ∃ kind tracker ops, r = run ops (made kind tracker)

theorem sound_made (kind : String) (tracker : Bool) : (made kind tracker).Sound :=
  sound_of_entries_eq_nil rfl

theorem record_eq_of_tracker {r : Registry} (h : r.tracker = true) (name : String) :
    r.record name = ((r.increment name (.int 1)).1, .ok ()) := by
  rw [record, if_pos h]

theorem record_eq_of_not_tracker {r : Registry} (h : r.tracker = false) (name : String) :
    r.record name = (r, .error ⟨⟩) := by
  rw [record, if_neg (by simp [h])]

theorem Sound.record {r : Registry} (h : r.Sound) (name : String) : (r.record name).1.Sound := by
  cases ht : r.tracker with
  | true =>
    rw [record_eq_of_tracker ht]
    exact h.increment name _
  | false => rwa [record_eq_of_not_tracker ht]

theorem Sound.names_record {r : Registry} (h : r.Sound) (ht : r.tracker = true) (name : String) :
    (r.record name).1.names = enlist r.names name := by
  rw [record_eq_of_tracker ht]
  exact h.names_increment name _

theorem Sound.get_record {r : Registry} (h : r.Sound) (ht : r.tracker = true)
    (name other : String) :
    (r.record name).1.get other = r.get other + if name = other then 1 else 0 := by
  have hi := h.get_increment name (.int 1) other
  rw [record_eq_of_tracker ht]
  by_cases hn : name = other
  · simp only [hn, if_true, accepted] at hi ⊢
    omega
  · simp only [hn, Ne.symm hn, if_false] at hi ⊢
    omega

theorem sound_step {r : Registry} (h : r.Sound) (op : Op) : (step op r).1.Sound := by
  cases op with
  | register name => exact h.register name
  | increment name v => exact h.increment name v
  | record name => exact h.record name
  | drain name => exact h.drain name
  | drainAll => exact h.drainAll
  | clear => exact sound_clear r
  | incrementAt i v => exact h.incrementAt i v
  | drainAt i => exact h.drainAt i
  | get _ | snapshot | names | contains _ | size | getAt _ => exact h

theorem sound_run {r : Registry} (h : r.Sound) (ops : List Op) : (run ops r).Sound := by
  induction ops generalizing r with
  | nil => exact h
  | cons op ops ih => exact ih (sound_step h op)

theorem Reachable.sound {r : Registry} (h : r.Reachable) : r.Sound := by
  obtain ⟨kind, tracker, ops, rfl⟩ := h
  exact sound_run (sound_made kind tracker) ops

theorem run_concat (ops : List Op) (op : Op) (r : Registry) :
    run (ops ++ [op]) r = (step op (run ops r)).1 := by
  rw [run_append]
  rfl

theorem Reachable.step {r : Registry} (h : r.Reachable) (op : Op) :
    (Registry.step op r).1.Reachable := by
  obtain ⟨kind, tracker, ops, rfl⟩ := h
  exact ⟨kind, tracker, ops ++ [op], (run_concat ops op _).symm⟩

/-! ## Trackers -/

theorem tracker_register (r : Registry) (name : String) :
    (r.register name).1.tracker = r.tracker := by
  rw [register]
  cases r.find? name <;> rfl

theorem tracker_incrementAt (r : Registry) (i : Nat) (v : Value) :
    (r.incrementAt i v).1.tracker = r.tracker := by
  rw [incrementAt]
  cases increment? v <;> rfl

theorem tracker_increment (r : Registry) (name : String) (v : Value) :
    (r.increment name v).1.tracker = r.tracker := by
  rw [increment_eq, tracker_incrementAt, tracker_register]

theorem tracker_drainEntries (es : List (String × Nat)) (r : Registry) :
    (drainEntries es r).1.tracker = r.tracker := by
  induction es generalizing r with
  | nil => rfl
  | cons e es ih =>
    rw [drainEntries]
    cases r.counters[e.2]? with
    | none => exact ih r
    | some c => exact ih (r.modifyAt e.2 Counter.drained)

theorem tracker_step (op : Op) (r : Registry) : (step op r).1.tracker = r.tracker := by
  cases op with
  | register name => exact tracker_register r name
  | increment name v => exact tracker_increment r name v
  | record name =>
    change (r.record name).1.tracker = r.tracker
    cases ht : r.tracker with
    | true => rw [record_eq_of_tracker ht, tracker_increment, ht]
    | false => rw [record_eq_of_not_tracker ht, ht]
  | drain name =>
    change (r.drain name).1.tracker = r.tracker
    rw [drain]
    cases r.find? name <;> rfl
  | drainAll => exact tracker_drainEntries r.entries r
  | incrementAt i v => exact tracker_incrementAt r i v
  | drainAt _ | clear => rfl
  | get _ | snapshot | names | contains _ | size | getAt _ => rfl

theorem tracker_run (ops : List Op) (r : Registry) : (run ops r).tracker = r.tracker := by
  induction ops generalizing r with
  | nil => rfl
  | cons op ops ih => exact (ih (step op r).1).trans (tracker_step op r)

/-- Records alone list their names after those that are there, and count each time. -/
theorem Sound.run_records {r : Registry} (h : r.Sound) (ht : r.tracker = true)
    (calls : List String) :
    (run (calls.map Op.record) r).names = (r.names ++ calls).eraseDups ∧
      ∀ name, (run (calls.map Op.record) r).get name = r.get name + calls.count name := by
  induction calls using List.reverseRecOn with
  | nil => exact ⟨by simp [run, eraseDups_of_nodup h.nodup_names], fun _ => rfl⟩
  | append_singleton calls last ih =>
    have hs := sound_run h (calls.map Op.record)
    have htr := (tracker_run (calls.map Op.record) r).trans ht
    rw [List.map_append, List.map_cons, List.map_nil, run_concat]
    generalize run (calls.map Op.record) r = r' at ih hs htr
    obtain ⟨hnames, hget⟩ := ih
    change (r'.record last).1.names = _ ∧ ∀ name, (r'.record last).1.get name = _
    rw [hs.names_record htr, hnames, ← List.append_assoc, eraseDups_concat]
    refine ⟨rfl, fun name => ?_⟩
    rw [hs.get_record htr, hget, List.count_append, List.count_singleton, Nat.add_assoc]
    simp only [beq_iff_eq]

end UsageMeter.Registry
