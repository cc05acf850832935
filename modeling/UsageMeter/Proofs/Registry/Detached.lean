import UsageMeter.Proofs.Registry.Ledger

/-!
Detached counters. A counter that no entry points at, as after a clear, takes part in no operation
but those on itself: no other operation reads or changes it, and nothing else is read or changed by
its own. So a run splits in two, the counter's own life and what the registry does without it.
-/
namespace UsageMeter.Registry

/-! ## Entries of a step -/

section Entries
variable {r : Registry}

theorem length_modifyAt (i : Nat) (f : Counter → Counter) :
    (r.modifyAt i f).counters.length = r.counters.length :=
  List.length_modify ..

theorem entries_incrementAt (r : Registry) (i : Nat) (v : Value) :
    (r.incrementAt i v).1.entries = r.entries ∧
      (r.incrementAt i v).1.counters.length = r.counters.length := by
  obtain ⟨k, hk, -⟩ | ⟨e, he, -⟩ := incrementAt_cases r i v
  · rw [hk]
    exact ⟨rfl, length_modifyAt i _⟩
  · rw [he]
    exact ⟨rfl, rfl⟩

theorem entries_drainEntries (es : List (String × Nat)) (r : Registry) :
    (drainEntries es r).1.entries = r.entries ∧
      (drainEntries es r).1.counters.length = r.counters.length := by
  induction es generalizing r with
  | nil => exact ⟨rfl, rfl⟩
  | cons e es ih =>
    rw [drainEntries]
    cases r.counters[e.2]? with
    | none => exact ih r
    | some c =>
      obtain ⟨hentries, hlength⟩ := ih (r.modifyAt e.2 Counter.drained)
      exact ⟨hentries, hlength.trans (length_modifyAt e.2 _)⟩

/-- What an operation other than a clear does to the entries: those that it adds point at a counter
that it makes. -/
structure Grows (r r' : Registry) : Prop where
  entries : ∃ added, r'.entries = r.entries ++ added ∧ ∀ e ∈ added, e.2 = r.counters.length
  counters : r.counters.length ≤ r'.counters.length

theorem Grows.of_eq {r' : Registry}
    (h : r'.entries = r.entries ∧ r'.counters.length = r.counters.length) : Grows r r' :=
  ⟨⟨[], by rw [h.1, List.append_nil], by simp⟩, Nat.le_of_eq h.2.symm⟩

theorem Grows.of_eq_right {r' r'' : Registry} (h : Grows r r')
    (he : r''.entries = r'.entries ∧ r''.counters.length = r'.counters.length) : Grows r r'' := by
  obtain ⟨added, hadded, hmade⟩ := h.entries
  exact ⟨⟨added, he.1.trans hadded, hmade⟩, he.2 ▸ h.counters⟩

theorem grows_register (r : Registry) (name : String) : Grows r (r.register name).1 := by
  cases hf : r.find? name with
  | some i =>
    rw [register_of_some hf]
    exact .of_eq ⟨rfl, rfl⟩
  | none =>
    rw [register_of_none hf]
    exact ⟨⟨[(name, r.counters.length)], rfl, by simp⟩, by simp⟩

theorem grows_increment (r : Registry) (name : String) (v : Value) :
    Grows r (r.increment name v).1 :=
  (grows_register r name).of_eq_right (entries_incrementAt _ _ v)

theorem grows_step (op : Op) (hc : op.isClear = false) (r : Registry) :
    Grows r (step op r).1 := by
  cases op with
  | register name => exact grows_register r name
  | increment name v => exact grows_increment r name v
  | record name =>
    change Grows r (r.record name).1
    rw [record]
    split
    · exact grows_increment r name _
    · exact .of_eq ⟨rfl, rfl⟩
  | drain name =>
    change Grows r (r.drain name).1
    rw [drain]
    cases r.find? name with
    | none => exact .of_eq ⟨rfl, rfl⟩
    | some i => exact .of_eq ⟨rfl, length_modifyAt i _⟩
  | drainAll => exact .of_eq (entries_drainEntries r.entries r)
  | clear => simp [Op.isClear] at hc
  | incrementAt i v => exact .of_eq (entries_incrementAt r i v)
  | drainAt i => exact .of_eq ⟨rfl, length_modifyAt i _⟩
  | get _ | snapshot | names | contains _ | size | getAt _ => exact .of_eq ⟨rfl, rfl⟩

end Entries

/-! ## Detached counters -/

/-- No entry points at the counter. -/
structure Detached (r : Registry) (i : Nat) : Prop where
  made : i < r.counters.length
  unlisted : i ∉ r.entries.map Prod.snd

theorem detached_clear {r : Registry} {i : Nat} (hi : i < r.counters.length) :
    Detached r.clear i :=
  ⟨hi, List.not_mem_nil⟩

theorem Detached.ne_of_find? {r : Registry} {i j : Nat} (hd : Detached r i) {name : String}
    (hf : r.find? name = some j) : j ≠ i := by
  rintro rfl
  exact hd.unlisted (List.mem_map_of_mem (mem_entries_of_find? hf))

theorem Detached.ne_register {r : Registry} {i : Nat} (hd : Detached r i) (name : String) :
    (r.register name).2 ≠ i := by
  cases hf : r.find? name with
  | some j =>
    rw [register_of_some hf]
    exact hd.ne_of_find? hf
  | none =>
    rw [register_of_none hf]
    exact Nat.ne_of_gt hd.made

theorem Detached.of_grows {r r' : Registry} {i : Nat} (hd : Detached r i) (hg : Grows r r') :
    Detached r' i := by
  obtain ⟨added, hadded, hmade⟩ := hg.entries
  refine ⟨Nat.lt_of_lt_of_le hd.made hg.counters, ?_⟩
  rw [hadded, List.map_append, List.mem_append]
  rintro (h | h)
  · exact hd.unlisted h
  · obtain ⟨e, he, rfl⟩ := List.mem_map.1 h
    exact Nat.ne_of_lt hd.made (hmade e he)

/-- What is detached once stays so. -/
theorem Detached.step {r : Registry} {i : Nat} (hd : Detached r i) (op : Op) :
    Detached (Registry.step op r).1 i := by
  cases hc : op.isClear with
  | false => exact hd.of_grows (grows_step op hc r)
  | true =>
    cases op <;> simp [Op.isClear] at hc
    exact detached_clear hd.made

theorem Detached.run {r : Registry} {i : Nat} (hd : Detached r i) (ops : List Op) :
    Detached (Registry.run ops r) i := by
  induction ops generalizing r with
  | nil => exact hd
  | cons op ops ih => exact ih (hd.step op)

/-! ## Without the counter -/

/-- The counter that an operation names by its place. -/
def Op.counter? : Op → Option Nat
  | .incrementAt i _ => some i
  | .getAt i => some i
  | .drainAt i => some i
  | _ => none

def Op.onCounter (i : Nat) (op : Op) : Bool :=
  op.counter? = some i

/-- The registry with another counter at a place. -/
def withCounter (r : Registry) (i : Nat) (c : Counter) : Registry :=
  ⟨r.kind, r.tracker, r.counters.set i c, r.entries⟩

section WithCounter
variable {r : Registry} {i : Nat}

theorem counters_withCounter_of_ne {j : Nat} (hj : j ≠ i) (c : Counter) :
    (r.withCounter i c).counters[j]? = r.counters[j]? :=
  List.getElem?_set_ne (Ne.symm hj)

theorem withCounter_self {c : Counter} (hc : r.counters[i]? = some c) :
    r.withCounter i c = r := by
  rw [withCounter, set_of_getElem? hc]

theorem valueAt_withCounter_of_ne {j : Nat} (hj : j ≠ i) (c : Counter) :
    (r.withCounter i c).valueAt j = r.valueAt j := by
  rw [valueAt, counters_withCounter_of_ne hj, valueAt]

theorem modifyAt_withCounter_of_ne {j : Nat} (hj : j ≠ i) (c : Counter) (f : Counter → Counter) :
    (r.withCounter i c).modifyAt j f = (r.modifyAt j f).withCounter i c := by
  simp only [modifyAt, withCounter, List.set_eq_modify, List.modify_modify_ne _ _ _ hj.symm]

theorem modifyAt_withCounter_self (c : Counter) (f : Counter → Counter) :
    (r.withCounter i c).modifyAt i f = r.withCounter i (f c) := by
  simp only [modifyAt, withCounter, List.set_eq_modify, List.modify_modify_eq]
  rfl

theorem incrementAt_withCounter_of_ne {j : Nat} (hj : j ≠ i) (c : Counter) (v : Value) :
    (r.withCounter i c).incrementAt j v =
      ((r.incrementAt j v).1.withCounter i c, (r.incrementAt j v).2) := by
  rw [incrementAt, incrementAt]
  cases increment? v with
  | ok n => simp only [modifyAt_withCounter_of_ne hj]
  | error e => rfl

theorem drainAt_withCounter_of_ne {j : Nat} (hj : j ≠ i) (c : Counter) :
    (r.withCounter i c).drainAt j = ((r.drainAt j).1.withCounter i c, (r.drainAt j).2) := by
  simp only [drainAt, modifyAt_withCounter_of_ne hj, valueAt_withCounter_of_ne hj]

theorem drainEntries_withCounter {es : List (String × Nat)} (he : ∀ e ∈ es, e.2 ≠ i)
    (c : Counter) :
    drainEntries es (r.withCounter i c) =
      ((drainEntries es r).1.withCounter i c, (drainEntries es r).2) := by
  induction es generalizing r with
  | nil => rfl
  | cons e es ih =>
    have hne : e.2 ≠ i := he e (by simp)
    have hes : ∀ e' ∈ es, e'.2 ≠ i := fun e' hm => he e' (by simp [hm])
    rw [drainEntries, drainEntries, counters_withCounter_of_ne hne]
    cases r.counters[e.2]? with
    | none => exact ih hes
    | some d =>
      rw [modifyAt_withCounter_of_ne hne, ih hes]

theorem events_withCounter (op : Op) (c : Counter) :
    events op (r.withCounter i c) = events op r := by
  cases op <;> rfl

end WithCounter

section Frame
variable {r : Registry} {i : Nat} (hd : Detached r i) (c : Counter)
include hd

theorem Detached.live_withCounter : (r.withCounter i c).live = r.live := by
  refine List.filterMap_congr fun e he => counters_withCounter_of_ne ?_ c
  rintro rfl
  exact hd.unlisted (List.mem_map_of_mem he)

theorem Detached.register_withCounter (name : String) :
    (r.withCounter i c).register name =
      ((r.register name).1.withCounter i c, (r.register name).2) := by
  have hfind : (r.withCounter i c).find? name = r.find? name := rfl
  cases hf : r.find? name with
  | some j => rw [register_of_some (hfind.trans hf), register_of_some hf]
  | none =>
    rw [register_of_none (hfind.trans hf), register_of_none hf]
    simp only [withCounter, List.length_set, List.set_append_left _ _ hd.made]

theorem Detached.increment_withCounter (name : String) (v : Value) :
    (r.withCounter i c).increment name v =
      ((r.increment name v).1.withCounter i c, (r.increment name v).2) := by
  rw [increment_eq, hd.register_withCounter, increment_eq]
  exact incrementAt_withCounter_of_ne (hd.ne_register name) c v

theorem Detached.record_withCounter (name : String) :
    (r.withCounter i c).record name =
      ((r.record name).1.withCounter i c, (r.record name).2) := by
  cases ht : r.tracker with
  | true =>
    rw [record_eq_of_tracker ht, record_eq_of_tracker (r := r.withCounter i c) ht,
      hd.increment_withCounter]
  | false =>
    rw [record_eq_of_not_tracker ht, record_eq_of_not_tracker (r := r.withCounter i c) ht]

theorem Detached.get_withCounter (name : String) :
    (r.withCounter i c).get name = r.get name := by
  have hfind : (r.withCounter i c).find? name = r.find? name := rfl
  rw [get, get, hfind]
  cases hf : r.find? name with
  | none => rfl
  | some j => exact valueAt_withCounter_of_ne (hd.ne_of_find? hf) c

theorem Detached.drain_withCounter (name : String) :
    (r.withCounter i c).drain name = ((r.drain name).1.withCounter i c, (r.drain name).2) := by
  have hfind : (r.withCounter i c).find? name = r.find? name := rfl
  rw [drain, drain, hfind]
  cases hf : r.find? name with
  | none => rfl
  | some j => exact drainAt_withCounter_of_ne (hd.ne_of_find? hf) c

theorem Detached.drainAll_withCounter :
    (r.withCounter i c).drainAll = (r.drainAll.1.withCounter i c, r.drainAll.2) := by
  have hentries : (r.withCounter i c).entries = r.entries := rfl
  have he : ∀ e ∈ r.entries, e.2 ≠ i := by
    rintro e hm rfl
    exact hd.unlisted (List.mem_map_of_mem hm)
  rw [drainAll, hentries, drainEntries_withCounter he]
  rfl

/-- An operation that does not name the counter neither reads nor changes it. -/
theorem Detached.step_withCounter {op : Op} (ho : op.onCounter i = false) :
    Registry.step op (r.withCounter i c) =
      ((Registry.step op r).1.withCounter i c, (Registry.step op r).2) := by
  have hne : ∀ {j : Nat}, op.counter? = some j → j ≠ i := by
    rintro j hj rfl
    simp [Op.onCounter, hj] at ho
  cases op with
  | register name =>
    rw [Registry.step, hd.register_withCounter]
    rfl
  | increment name v =>
    rw [Registry.step, hd.increment_withCounter]
    rfl
  | record name =>
    rw [Registry.step, hd.record_withCounter]
    rfl
  | get name =>
    rw [Registry.step, hd.get_withCounter]
    rfl
  | drain name =>
    rw [Registry.step, hd.drain_withCounter]
    rfl
  | drainAll =>
    rw [Registry.step, hd.drainAll_withCounter]
    rfl
  | snapshot =>
    rw [Registry.step, snapshot, pairs, hd.live_withCounter]
    rfl
  | names =>
    rw [Registry.step, names, hd.live_withCounter]
    rfl
  | contains _ | size | clear => rfl
  | incrementAt j v =>
    rw [Registry.step, incrementAt_withCounter_of_ne (hne rfl)]
    rfl
  | getAt j =>
    rw [Registry.step, valueAt_withCounter_of_ne (hne rfl)]
    rfl
  | drainAt j =>
    rw [Registry.step, drainAt_withCounter_of_ne (hne rfl)]
    rfl

end Frame

/-! ## The counter's own life -/

/-- An operation that names a counter, on a counter that is in no registry. -/
def Op.alone (op : Op) (c : Counter) : Counter × Answer :=
  match op with
  | .incrementAt _ v => let (c', e) := c.increment v; (c', .ofIncrement e)
  | .drainAt _ => (c.drained, .count c.value)
  | .getAt _ => (c, .count c.value)
  | _ => (c, .nothing)

/-- A counter after a list of operations on it. -/
def lived (ops : List Op) (c : Counter) : Counter :=
  ops.foldl (fun c op => (op.alone c).1) c

/-- What a list of operations on a counter gives. -/
def answersAlone : List Op → Counter → List Answer
  | [], _ => []
  | op :: ops, c => (op.alone c).2 :: answersAlone ops (op.alone c).1

/-- To an operation on it, a counter is what it is outside the registry. -/
theorem step_onCounter {r : Registry} {i : Nat} (hi : i < r.counters.length) {op : Op}
    (ho : op.onCounter i = true) (c : Counter) :
    step op (r.withCounter i c) = (r.withCounter i (op.alone c).1, (op.alone c).2) ∧
      events op (r.withCounter i c) = [] := by
  have hvalue : (r.withCounter i c).valueAt i = c.value := by
    simp [valueAt, withCounter, hi]
  cases op with
  | incrementAt j v =>
    obtain rfl : j = i := by simpa [Op.onCounter, Op.counter?] using ho
    refine ⟨?_, rfl⟩
    rw [step, incrementAt, Op.alone, Counter.increment]
    cases increment? v with
    | ok n =>
      simp only [modifyAt_withCounter_self]
    | error e => rfl
  | getAt j =>
    obtain rfl : j = i := by simpa [Op.onCounter, Op.counter?] using ho
    refine ⟨?_, rfl⟩
    rw [step, hvalue]
    rfl
  | drainAt j =>
    obtain rfl : j = i := by simpa [Op.onCounter, Op.counter?] using ho
    refine ⟨?_, rfl⟩
    simp only [step, drainAt, modifyAt_withCounter_self, hvalue]
    rfl
  | _ => simp [Op.onCounter, Op.counter?] at ho

/-! ## Runs -/

/-- What an operation gives and reports. -/
def Performed.told (p : Performed) : Op × Answer × List Event :=
  (p.op, p.answer, events p.op p.before)

def Performed.onCounter (i : Nat) (p : Performed) : Bool :=
  p.op.onCounter i

/-- A run with a detached counter in it is a run without it beside the counter's own life: the
operations on the counter do to it what they do to a counter outside, and all others do, give and
report what they would without them. -/
theorem Detached.run_splits {r : Registry} {i : Nat} (hd : Detached r i) (ops : List Op)
    (c : Counter) :
    let own := ops.filter (Op.onCounter i)
    let others := ops.filter fun op => !op.onCounter i
    let past := history ops (r.withCounter i c)
    Registry.run ops (r.withCounter i c) = (Registry.run others r).withCounter i (lived own c) ∧
    (past.filter fun p => !p.onCounter i).map Performed.told =
      (history others r).map Performed.told ∧
    (past.filter (Performed.onCounter i)).map Performed.answer = answersAlone own c := by
  induction ops generalizing r c with
  | nil => exact ⟨rfl, rfl, rfl⟩
  | cons op ops ih =>
    cases ho : op.onCounter i with
    | true =>
      obtain ⟨hstep, -⟩ := step_onCounter hd.made ho c
      obtain ⟨hrun, htold, hown⟩ := ih hd (op.alone c).1
      simp only [Registry.run, history, hstep, ho, List.filter_cons, Performed.onCounter]
      exact ⟨hrun, htold, congrArg (_ :: ·) hown⟩
    | false =>
      have hstep := hd.step_withCounter c ho
      obtain ⟨hrun, htold, hown⟩ := ih (hd.step op) c
      simp only [Registry.run, history, hstep, ho, List.filter_cons, Performed.onCounter]
      refine ⟨hrun, ?_, hown⟩
      exact congrArg₂ List.cons (by rw [Performed.told, Performed.told, events_withCounter]) htold

end UsageMeter.Registry
