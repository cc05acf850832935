import Mathlib.Algebra.Ring.Int.Defs
import UsageMeter.Proofs.Registry.Reach

/-!
The ledger of a registry. Whatever was accepted under a name since the last clear was either handed
out by a draining read or is the value now, and the names stand in the order in which they were
first called for.
-/
namespace UsageMeter.Registry

/-- An operation as it was performed: on which registry, and with which answer. -/
structure Performed where
  op : Op
  before : Registry
  answer : Answer

/-- The operations of a run as they were performed. -/
def history : List Op → Registry → List Performed
  | [], _ => []
  | op :: ops, r => ⟨op, r, (step op r).2⟩ :: history ops (step op r).1

def Op.isClear : Op → Bool
  | .clear => true
  | _ => false

def sinceClear (past : List Performed) : List Performed :=
  since (fun p => p.op.isClear) past

namespace Performed

/-- What the operation was to add under a name, by name or on the live counter of that name. -/
def credited (name : String) (p : Performed) : Int :=
  match p.op with
  | .increment n v => if n = name then accepted v else 0
  | .record n => if n = name ∧ p.before.tracker = true then 1 else 0
  | .incrementAt i v => if p.before.find? name = some i then accepted v else 0
  | _ => 0

/-- What the operation handed out for a name and took away from its value. -/
def returned (name : String) (p : Performed) : Int :=
  match p.op, p.answer with
  | .drain n, .count k => if n = name then k else 0
  | .drainAt i, .count k => if p.before.find? name = some i then k else 0
  | .drainAll, .counts t => ((t.get? name).getD 0 : Nat)
  | _, _ => 0

/-- The name that the operation called for. -/
def called? (p : Performed) : Option String :=
  match p.op with
  | .register n => some n
  | .increment n _ => some n
  | .record n => if p.before.tracker = true then some n else none
  | _ => none

def isRejected (p : Performed) : Bool :=
  match p.answer with
  | .rejected _ => true
  | _ => false

end Performed

theorem history_concat (ops : List Op) (op : Op) (r : Registry) :
    history (ops ++ [op]) r =
      history ops r ++ [⟨op, run ops r, (step op (run ops r)).2⟩] := by
  induction ops generalizing r with
  | nil => rfl
  | cons o ops ih => simpa [history, run] using ih (step o r).1

theorem sinceClear_history_clear (ops : List Op) {op : Op} (r : Registry)
    (hc : op.isClear = true) : sinceClear (history (ops ++ [op]) r) = [] := by
  rw [history_concat]
  exact since_concat_ends _ hc

theorem sinceClear_history_concat (ops : List Op) {op : Op} (r : Registry)
    (hc : op.isClear = false) : sinceClear (history (ops ++ [op]) r) =
      sinceClear (history ops r) ++ [⟨op, run ops r, (step op (run ops r)).2⟩] := by
  rw [history_concat]
  exact since_concat _ hc

theorem mem_history {ops : List Op} {r : Registry} {p : Performed} (h : p ∈ history ops r) :
    ∃ before : List Op, p.before = run before r ∧ p.answer = (step p.op p.before).2 := by
  induction ops generalizing r with
  | nil => simp [history] at h
  | cons op ops ih =>
    obtain rfl | h := List.mem_cons.1 h
    · exact ⟨[], rfl, rfl⟩
    · obtain ⟨before, hb, ha⟩ := ih h
      exact ⟨op :: before, hb, ha⟩

/-! ## One operation -/

/-- One operation that is no clear: what it adds is handed out or stays. -/
theorem credited_step {r : Registry} (h : r.Sound) (op : Op) (hc : op.isClear = false)
    (name : String) :
    (r.get name : Int) + Performed.credited name ⟨op, r, (step op r).2⟩ =
      Performed.returned name ⟨op, r, (step op r).2⟩ + (step op r).1.get name := by
  cases op with
  | register n =>
    change (r.get name : Int) + 0 = 0 + ((r.register n).1.get name : Int)
    rw [h.get_register]
    omega
  | increment n v =>
    change (r.get name : Int) + (if n = name then accepted v else 0) =
      0 + ((r.increment n v).1.get name : Int)
    rw [h.get_increment, Int.zero_add]
    simp only [eq_comm]
  | record n =>
    change (r.get name : Int) + (if n = name ∧ r.tracker = true then 1 else 0) =
      0 + ((r.record n).1.get name : Int)
    cases ht : r.tracker with
    | true =>
      rw [h.get_record ht]
      by_cases hn : n = name
      · simp [hn]
      · simp [hn]
    | false =>
      rw [record_eq_of_not_tracker ht]
      simp
  | drain n =>
    change (r.get name : Int) + 0 =
      (if n = name then ((r.drain n).2 : Int) else 0) + ((r.drain n).1.get name : Int)
    rw [h.get_drain, drain_snd]
    by_cases hn : n = name
    · simp [hn]
    · simp [hn, Ne.symm hn]
  | drainAll =>
    change (r.get name : Int) + 0 =
      ((r.drainAll.2.get? name).getD 0 : Nat) + (r.drainAll.1.get name : Int)
    rw [h.drainAll_snd, h.getD_snapshot, h.get_drainAll]
    omega
  | clear => simp [Op.isClear] at hc
  | incrementAt i v =>
    change (r.get name : Int) + (if r.find? name = some i then accepted v else 0) =
      0 + ((r.incrementAt i v).1.get name : Int)
    rw [h.get_incrementAt, Int.zero_add]
  | drainAt i =>
    change (r.get name : Int) + 0 = (if r.find? name = some i then (r.valueAt i : Int) else 0) +
      ((r.modifyAt i Counter.drained).get name : Int)
    rw [get_drained]
    by_cases hf : r.find? name = some i
    · simp [hf, get]
    · simp [hf]
  | get _ | snapshot | names | contains _ | size | getAt _ =>
    change (r.get name : Int) + 0 = 0 + (r.get name : Int)
    omega

/-- One operation that is no clear: the name that it calls for is listed, and nothing is lost. -/
theorem names_step {r : Registry} (h : r.Sound) (op : Op) (hc : op.isClear = false) :
    (step op r).1.names =
      ((Performed.called? ⟨op, r, (step op r).2⟩).elim r.names fun n => enlist r.names n) := by
  cases op with
  | register n => exact h.names_register n
  | increment n v => exact h.names_increment n v
  | record n =>
    change (r.record n).1.names =
      ((if r.tracker = true then some n else none).elim r.names fun n => enlist r.names n)
    cases ht : r.tracker with
    | true => exact h.names_record ht n
    | false =>
      rw [record_eq_of_not_tracker ht]
      rfl
  | drain n => exact h.names_drain n
  | drainAll => exact h.names_drainAll
  | clear => simp [Op.isClear] at hc
  | incrementAt i v => exact h.names_incrementAt i v
  | drainAt i => exact h.names_drainAt i
  | get _ | snapshot | names | contains _ | size | getAt _ => rfl

/-- A rejected increment counts for no name. -/
theorem credited_of_isRejected {r : Registry} {op : Op}
    (hr : Performed.isRejected ⟨op, r, (step op r).2⟩ = true) (name : String) :
    Performed.credited name ⟨op, r, (step op r).2⟩ = 0 := by
  have hz : ∀ (s : Registry) (i : Nat) (v : Value),
      Performed.isRejected ⟨op, r, .ofIncrement (s.incrementAt i v).2⟩ = true →
        accepted v = 0 := by
    intro s i v hv
    obtain ⟨k, hk, -⟩ | ⟨e, -, ha, -⟩ := incrementAt_cases s i v
    · simp [hk, Answer.ofIncrement, Performed.isRejected] at hv
    · exact ha
  cases op with
  | increment n v =>
    have ha := hz (r.register n).1 (r.register n).2 v hr
    simp [Performed.credited, ha]
  | incrementAt i v =>
    have ha := hz r i v hr
    simp [Performed.credited, ha]
  | record n =>
    change Performed.isRejected ⟨_, r, .ofRecord (r.record n).2⟩ = true at hr
    cases ht : r.tracker with
    | true => simp [record_eq_of_tracker ht, Answer.ofRecord, Performed.isRejected] at hr
    | false => simp [Performed.credited, ht]
  | _ => rfl

theorem get_of_isRejected {r : Registry} (h : r.Sound) {op : Op}
    (hr : Performed.isRejected ⟨op, r, (step op r).2⟩ = true) (name : String) :
    (step op r).1.get name = r.get name := by
  have hc := credited_of_isRejected hr name
  have hn : op.isClear = false ∧ Performed.returned name ⟨op, r, (step op r).2⟩ = 0 := by
    cases op <;> simp_all [Op.isClear, Performed.isRejected, Performed.returned, step]
  have hs := credited_step h op hn.1 name
  rw [hc, hn.2] at hs
  omega

/-! ## A run -/

/-- What was accepted for a name in some history. -/
def totalCredited (name : String) (past : List Performed) : Int :=
  (past.map (Performed.credited name)).sum

/-- What draining reads handed out for a name in some history. -/
def totalReturned (name : String) (past : List Performed) : Int :=
  (past.map (Performed.returned name)).sum

theorem balance_run (kind : String) (tracker : Bool) (ops : List Op) (name : String) :
    totalCredited name (sinceClear (history ops (made kind tracker))) =
      totalReturned name (sinceClear (history ops (made kind tracker))) +
        (run ops (made kind tracker)).get name := by
  induction ops using List.reverseRecOn with
  | nil => rfl
  | append_singleton ops op ih =>
    rw [run_concat]
    cases hc : op.isClear with
    | true =>
      rw [sinceClear_history_clear ops _ hc]
      cases op <;> simp [Op.isClear] at hc
      rfl
    | false =>
      have hs := credited_step (sound_run (sound_made kind tracker) ops) op hc name
      rw [sinceClear_history_concat ops _ hc]
      simp only [totalCredited, totalReturned, List.map_append, List.sum_append,
        List.map_cons, List.map_nil, List.sum_cons, List.sum_nil] at ih ⊢
      omega

/-- The names of a run are those that were called for since the last clear. -/
theorem names_run (kind : String) (tracker : Bool) (ops : List Op) :
    (run ops (made kind tracker)).names =
      ((sinceClear (history ops (made kind tracker))).filterMap Performed.called?).eraseDups := by
  induction ops using List.reverseRecOn with
  | nil => rfl
  | append_singleton ops op ih =>
    rw [run_concat]
    cases hc : op.isClear with
    | true =>
      rw [sinceClear_history_clear ops _ hc]
      cases op <;> simp [Op.isClear] at hc
      rfl
    | false =>
      rw [sinceClear_history_concat ops _ hc,
        names_step (sound_run (sound_made kind tracker) ops) op hc, List.filterMap_append, ih]
      cases hn : Performed.called? ⟨op, run ops (made kind tracker),
          (step op (run ops (made kind tracker))).2⟩ with
      | none => simp [hn]
      | some n =>
        simp only [List.filterMap_cons, hn, List.filterMap_nil, eraseDups_concat]
        rfl

theorem names_prefix_run {r : Registry} (h : r.Sound) {ops : List Op}
    (hc : ∀ op ∈ ops, op.isClear = false) : r.names <+: (run ops r).names := by
  induction ops generalizing r with
  | nil => exact List.prefix_rfl
  | cons op ops ih =>
    have hstep : r.names <+: (step op r).1.names := by
      rw [names_step h op (hc op (by simp))]
      cases Performed.called? ⟨op, r, (step op r).2⟩ with
      | none => exact List.prefix_rfl
      | some n => exact prefix_enlist r.names n
    exact hstep.trans (ih (sound_step h op) fun o ho => hc o (by simp [ho]))

/-- In every state that a new registry reaches and for every name, what was accepted since the last
clear is what draining reads handed out since then and the value now; no more was ever handed out
than was accepted; a rejected increment counts for nothing and changes no value; and the names are
distinct, stand in the order of the first calls for them since the last clear, and until the next
clear only grow at their end. -/
theorem ledger_balances (kind : String) (tracker : Bool) (ops : List Op) :
    let start := made kind tracker
    let past := sinceClear (history ops start)
    (∀ name, totalCredited name past = totalReturned name past + (run ops start).get name ∧
      totalReturned name past ≤ totalCredited name past) ∧
    (∀ p ∈ past, p.isRejected = true → ∀ name, p.credited name = 0 ∧
      (step p.op p.before).1.get name = p.before.get name) ∧
    (run ops start).names.Nodup ∧
    (run ops start).names = (past.filterMap Performed.called?).eraseDups ∧
    ∀ u v, ops = u ++ v → (∀ op ∈ v, op.isClear = false) →
      (run u start).names <+: (run ops start).names := by
  intro start past
  have hsound : ∀ ops, (run ops start).Sound := sound_run (sound_made kind tracker)
  refine ⟨?_, ?_, (hsound ops).nodup_names, names_run kind tracker ops, ?_⟩
  · intro name
    have hb := balance_run kind tracker ops name
    have hn : (0 : Int) ≤ (run ops start).get name := Int.natCast_nonneg _
    exact ⟨hb, by rw [hb]; exact Int.le_add_of_nonneg_right hn⟩
  · intro p hp hr name
    obtain ⟨before, hb, ha⟩ := mem_history ((List.rtakeWhile_suffix _ _).subset hp)
    obtain ⟨op, r, answer⟩ := p
    simp only at hb ha
    subst hb ha
    exact ⟨credited_of_isRejected hr name, get_of_isRejected (hsound before) hr name⟩
  · rintro u v rfl hc
    rw [run_append]
    exact names_prefix_run (hsound u) hc

/-- Two accepted increments, a rejected one and a drain. -/
def mixedRun : List Op :=
  [.increment "jobs" (.int 2), .increment "flags" (.bool true), .drain "jobs",
    .increment "jobs" (.int 3)]

theorem mixed_run_balances :
    let start := made metricKind false
    let past := sinceClear (history mixedRun start)
    totalCredited "jobs" past = 5 ∧ totalReturned "jobs" past = 2 ∧
    (run mixedRun start).get "jobs" = 3 ∧
    (∃ p ∈ past, p.isRejected = true ∧ p.credited "flags" = 0) ∧
    (run mixedRun start).names = ["jobs", "flags"] ∧
    (run (mixedRun.take 1) start).names <+: (run mixedRun start).names := by
  intro start past
  obtain ⟨hbalance, hrejected, -, hnames, hprefix⟩ := ledger_balances metricKind false mixedRun
  have hcredited : totalCredited "jobs" past = 5 := by decide
  have hreturned : totalReturned "jobs" past = 2 := by decide
  have hget : (run mixedRun start).get "jobs" = 3 := by
    have hb : totalCredited "jobs" past = totalReturned "jobs" past +
      (run mixedRun start).get "jobs" := (hbalance "jobs").1
    omega
  have hmem : ⟨.increment "flags" (.bool true), run (mixedRun.take 1) start,
      .rejected (.notInteger (.bool true))⟩ ∈ past :=
    List.mem_cons_of_mem _ List.mem_cons_self
  refine ⟨hcredited, hreturned, hget, ⟨_, hmem, rfl, (hrejected _ hmem rfl "flags").1⟩, ?_, ?_⟩
  · rw [hnames]
    decide
  · exact hprefix (mixedRun.take 1) (mixedRun.drop 1) rfl (by decide)

end UsageMeter.Registry
