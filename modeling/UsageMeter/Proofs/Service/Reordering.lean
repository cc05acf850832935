import Mathlib.Algebra.BigOperators.Group.List.Basic
import UsageMeter.Proofs.Report.Alike
import UsageMeter.Proofs.Service.Reads

/-!
Order of recording. What is counted and known after a run of recordings depends on how often each
command was recorded, on the names and totals of the metrics and on the web applications, and not on
the order or the portions in which they came. Only the order of listing does.
-/
namespace UsageMeter

/-- Registries that count the same under the same names take the same snapshot in some order. -/
theorem Registry.Sound.snapshot_perm {r r' : Registry} (h : r.Sound) (h' : r'.Sound)
    (hnames : ∀ name, name ∈ r.names ↔ name ∈ r'.names) (hget : ∀ name, r.get name = r'.get name) :
    r.snapshot.entries.Perm r'.snapshot.entries := by
  have hperm : r.names.Perm r'.names :=
    (List.perm_ext_iff_of_nodup h.nodup_names h'.nodup_names).2 hnames
  have hvalues : r.get = r'.get := funext hget
  rw [h.entries_snapshot, h.pairs_eq, h'.entries_snapshot, h'.pairs_eq, hvalues]
  exact hperm.map _

theorem Hub.AllReachable.run {h : Hub} (hr : h.AllReachable) (ops : List Service.Op)
    (s : Service) : (Service.run ops h s).1.AllReachable := by
  induction ops generalizing h s with
  | nil => exact hr
  | cons op ops ih => exact ih (hr.service op s) _

namespace Service

/-! ## Recordings -/

/-- Whether an operation records a command or a metric or registers a web application. -/
def Op.isRecording : Op → Bool
  | .recordCommand _ | .recordMetric _ _ | .addWebapp _ => true
  | _ => false

theorem Op.ends_of_isRecording {op : Op} (h : op.isRecording = true) :
    op.endsCommands = false ∧ op.endsMetrics = false := by
  cases op with
  | recordCommand _ | recordMetric _ _ | addWebapp _ => exact ⟨rfl, rfl⟩
  | _ => cases h

/-- Two histories record the same: every command as often, metrics of the same names with the same
totals, and the same web applications. -/
structure RecordsSame (u v : List Op) : Prop where
  commands : ∀ name, (u.filterMap Op.command?).count name = (v.filterMap Op.command?).count name
  metrics : ∀ name, name ∈ u.filterMap Op.metric? ↔ name ∈ v.filterMap Op.metric?
  totals : ∀ name, (u.map (Op.adds name)).sum = (v.map (Op.adds name)).sum
  webapps : ∀ name, name ∈ u.filterMap Op.webapp? ↔ name ∈ v.filterMap Op.webapp?

namespace RecordsSame
variable {u v w : List Op}

theorem trans (h : RecordsSame u v) (h' : RecordsSame v w) : RecordsSame u w :=
  ⟨fun name => (h.commands name).trans (h'.commands name),
    fun name => (h.metrics name).trans (h'.metrics name),
    fun name => (h.totals name).trans (h'.totals name),
    fun name => (h.webapps name).trans (h'.webapps name)⟩

/-- The order of recording does not matter. -/
theorem of_perm (h : u.Perm v) : RecordsSame u v :=
  ⟨fun name => (h.filterMap _).count_eq name, fun _ => (h.filterMap _).mem_iff,
    fun _ => (h.map _).sum_eq, fun _ => (h.filterMap _).mem_iff⟩

/-- A total may come in two portions. -/
theorem split (name : String) (a b : Nat) (u v : List Op) :
    RecordsSame (u ++ .recordMetric name (.int (a + b)) :: v)
      (u ++ .recordMetric name (.int a) :: .recordMetric name (.int b) :: v) := by
  have hadds : ∀ n, Op.adds n (.recordMetric name (.int (a + b))) =
      Op.adds n (.recordMetric name (.int a)) + Op.adds n (.recordMetric name (.int b)) := by
    intro n
    by_cases hn : name = n
    · simp only [Op.adds, hn, if_true, accepted]
      omega
    · simp [Op.adds, hn]
  refine ⟨fun n => ?_, fun n => ?_, fun n => ?_, fun n => ?_⟩
  · simp [List.filterMap_append, List.filterMap_cons, Op.command?]
  · simp [List.filterMap_append, Op.metric?]
  · simp only [List.map_append, List.map_cons, List.sum_append, List.sum_cons, hadds]
    omega
  · simp [List.filterMap_append, List.filterMap_cons, Op.webapp?]

end RecordsSame

/-! ## Registries after recordings -/

/-- While no operation ends a period, names are added to those of a registry and counts to its
counts. -/
theorem Feeds.run_open {tracker : Bool} {ask : Op → Option Registry.Op} {ends : Op → Bool}
    {call? : Op → Option String} {adds : String → Op → Int}
    (hf : Feeds tracker ask ends call? adds) {r : Registry} (hs : r.Sound)
    (ht : r.tracker = tracker) {past : List Op} (hp : ∀ op ∈ past, ends op = false) :
    (∀ name, name ∈ (Registry.run (past.filterMap ask) r).names ↔
      name ∈ r.names ∨ name ∈ past.filterMap call?) ∧
    ∀ name, ((Registry.run (past.filterMap ask) r).get name : Int) =
      r.get name + (past.map (adds name)).sum := by
  induction past generalizing r with
  | nil => simp [Registry.run]
  | cons op past ih =>
    have hrun : Registry.run ((op :: past).filterMap ask) r =
        Registry.run (past.filterMap ask) (Registry.run (ask op).toList r) := by
      rw [← Registry.run_append, List.filterMap_cons]
      cases ask op <;> rfl
    obtain ⟨hnames, hget⟩ := hf.counts op (hp op List.mem_cons_self) r hs ht
    obtain ⟨hnames', hget'⟩ := ih (Registry.sound_run hs (ask op).toList)
      ((Registry.tracker_run _ r).trans ht) fun op' h => hp op' (List.mem_cons_of_mem _ h)
    rw [hrun]
    refine ⟨fun name => ?_, fun name => ?_⟩
    · rw [hnames', hnames, List.filterMap_cons]
      cases call? op with
      | none => rfl
      | some n =>
        simp only [Option.elim_some, mem_enlist_iff, List.mem_cons]
        tauto
    · rw [hget', hget, List.map_cons, List.sum_cons, Int.add_assoc]

/-- A registry that is no tracker refuses commands. -/
theorem feeds_refused :
    Feeds false Op.forCommands? Op.endsCommands (fun _ => none) fun _ _ => 0 where
  clears := feeds_commands.clears
  drains op h he := ⟨(feeds_commands.drains op h he).1, rfl⟩
  counts op he r _ ht := by
    have hsame : Registry.run op.forCommands?.toList r = r := by
      cases op with
      | recordCommand n =>
        change (r.record n).1 = r
        rw [Registry.record_eq_of_not_tracker ht]
      | drainCommands | reset => simp [Op.endsCommands] at he
      | _ => rfl
    rw [hsame]
    exact ⟨rfl, fun _ => (Int.add_zero _).symm⟩

/-- Histories of the same calls and sums leave a registry that takes the same snapshot. -/
theorem Feeds.snapshot_perm {tracker : Bool} {ask : Op → Option Registry.Op} {ends : Op → Bool}
    {call? : Op → Option String} {adds : String → Op → Int}
    (hf : Feeds tracker ask ends call? adds) {r : Registry} (hs : r.Sound)
    (ht : r.tracker = tracker) {u v : List Op} (hu : ∀ op ∈ u, ends op = false)
    (hv : ∀ op ∈ v, ends op = false)
    (hcalls : ∀ name, name ∈ u.filterMap call? ↔ name ∈ v.filterMap call?)
    (hadds : ∀ name, (u.map (adds name)).sum = (v.map (adds name)).sum) :
    (Registry.run (u.filterMap ask) r).snapshot.entries.Perm
      (Registry.run (v.filterMap ask) r).snapshot.entries := by
  obtain ⟨hnames, hget⟩ := hf.run_open hs ht hu
  obtain ⟨hnames', hget'⟩ := hf.run_open hs ht hv
  refine (Registry.sound_run hs _).snapshot_perm (Registry.sound_run hs _) ?_ ?_
  · intro name
    rw [hnames, hnames', hcalls]
  · intro name
    have hsum := hadds name
    have hu' := hget name
    have hv' := hget' name
    omega

/-! ## A service after recordings -/

section Recorded
variable {s : Service} {h : Hub} {u v : List Op}

theorem commands_snapshot_perm (hp : s.Placed h) (hs : (h.registry s.commands).Sound)
    (hu : ∀ op ∈ u, op.isRecording = true) (hv : ∀ op ∈ v, op.isRecording = true)
    (hsame : RecordsSame u v) :
    ((run u h s).1.registry s.commands).snapshot.entries.Perm
      ((run v h s).1.registry s.commands).snapshot.entries := by
  have hu' := fun op hop => (Op.ends_of_isRecording (hu op hop)).1
  have hv' := fun op hop => (Op.ends_of_isRecording (hv op hop)).1
  rw [registry_commands_run hp, registry_commands_run hp]
  -- A registry that is no tracker counts none of the commands, so it stays as it is both times.
  cases ht : (h.registry s.commands).tracker with
  | true =>
    refine feeds_commands.snapshot_perm hs ht hu' hv' ?_ ?_
    · intro name
      rw [← List.count_pos_iff, ← List.count_pos_iff, hsame.commands]
    · intro name
      rw [sum_records, sum_records, hsame.commands]
  | false => exact feeds_refused.snapshot_perm hs ht hu' hv' (by simp) (by simp)

theorem metrics_snapshot_perm (hp : s.Placed h) (hs : (h.registry s.metrics).Sound)
    (hu : ∀ op ∈ u, op.isRecording = true) (hv : ∀ op ∈ v, op.isRecording = true)
    (hsame : RecordsSame u v) :
    ((run u h s).1.registry s.metrics).snapshot.entries.Perm
      ((run v h s).1.registry s.metrics).snapshot.entries := by
  have hu' := fun op hop => (Op.ends_of_isRecording (hu op hop)).2
  have hv' := fun op hop => (Op.ends_of_isRecording (hv op hop)).2
  rw [registry_metrics_run hp, registry_metrics_run hp]
  exact (feeds_metrics _).snapshot_perm hs rfl hu' hv' hsame.metrics hsame.totals

theorem onFacts_of_isRecording (hu : ∀ op ∈ u, op.isRecording = true) (f : Facts) :
    u.foldl Op.onFacts f =
      ⟨(u.filterMap Op.webapp?).foldl Webapps.insert f.webapps, f.enabled⟩ := by
  induction u generalizing f with
  | nil => rfl
  | cons op u ih =>
    have hrest := ih fun op' h => hu op' (List.mem_cons_of_mem _ h)
    have hop := hu op List.mem_cons_self
    cases op with
    | recordCommand _ | recordMetric _ _ | addWebapp _ => exact hrest _
    | _ => cases hop

theorem onStatic_of_isRecording (hu : ∀ op ∈ u, op.isRecording = true) (d : StaticData) :
    u.foldl Op.onStatic d = d := by
  induction u with
  | nil => rfl
  | cons op u ih =>
    have hrest := ih fun op' h => hu op' (List.mem_cons_of_mem _ h)
    have hop := hu op List.mem_cons_self
    cases op with
    | recordCommand _ | recordMetric _ _ | addWebapp _ => exact hrest
    | _ => cases hop

theorem foldl_insert_webapps (names : List String) (w : Webapps) :
    names.foldl Webapps.insert w = ⟨names.foldl NameSet.insert w.names, w.others, w.nameless⟩ := by
  induction names generalizing w with
  | nil => rfl
  | cons name names ih => exact ih (w.insert name)

/-- Web applications may be registered in any order and any number of times. -/
theorem factsAt_of_recordsSame (hp : s.Placed h) (hu : ∀ op ∈ u, op.isRecording = true)
    (hv : ∀ op ∈ v, op.isRecording = true) (hsame : RecordsSame u v) :
    (run u h s).1.factsAt s.facts = (run v h s).1.factsAt s.facts := by
  rw [factsAt_run hp, factsAt_run hp, onFacts_of_isRecording hu, onFacts_of_isRecording hv,
    foldl_insert_webapps, foldl_insert_webapps]
  have hnames := NameSet.ext_mem (s := (u.filterMap Op.webapp?).foldl NameSet.insert
    (h.factsAt s.facts).webapps.names) (t := (v.filterMap Op.webapp?).foldl NameSet.insert
    (h.factsAt s.facts).webapps.names) fun name => by
      rw [NameSet.mem_foldl_insert, NameSet.mem_foldl_insert, hsame.webapps]
  rw [hnames]

end Recorded

/-! ## What a service then tells -/

theorem answer_drainMetrics {s : Service} {h : Hub} (hs : (h.registry s.metrics).Sound) :
    (step .drainMetrics h s).answer = .counts (h.registry s.metrics).snapshot :=
  congrArg Answer.counts hs.drainAll_snd

theorem answer_drainCommands {s : Service} {h : Hub} (hs : (h.registry s.commands).Sound) :
    (step .drainCommands h s).answer = .counts (h.registry s.commands).snapshot :=
  congrArg Answer.counts hs.drainAll_snd

/-- A service over two registries, in any state, that records the same in two ways, each command as
often and the metrics of the same names with the same totals, in any order and in any portions. The
reports then fail alike, or they are alike, if the web applications equal themselves, and have one
digest, whatever the digests of their parts are. Draining gives tables that are alike, and the web
applications are the same. -/
theorem recordings_in_any_order {s : Service} {h : Hub} (hp : s.Placed h) (hr : h.AllReachable)
    {u v : List Op} (hu : ∀ op ∈ u, op.isRecording = true) (hv : ∀ op ∈ v, op.isRecording = true)
    (hsame : RecordsSame u v) :
    let a := run u h s
    let b := run v h s
    ((∃ e, (step .report a.1 a.2).answer = .unidentified e ∧
        (step .report b.1 b.2).answer = .unidentified e) ∨
      ∃ r r', (step .report a.1 a.2).answer = .report r ∧
        (step .report b.1 b.2).answer = .report r' ∧
        ((∀ w ∈ r.product.internals.webapps.others, w.equal w = true) → r.alike r' = true) ∧
        ∀ hashing : Hashing, hashing.report r = hashing.report r') ∧
    (∃ t t', (step .drainMetrics a.1 a.2).answer = .counts t ∧
      (step .drainMetrics b.1 b.2).answer = .counts t' ∧ t.alike (· == ·) t' = true) ∧
    (∃ t t', (step .drainCommands a.1 a.2).answer = .counts t ∧
      (step .drainCommands b.1 b.2).answer = .counts t' ∧ t.alike (· == ·) t' = true) ∧
    (a.1.factsAt s.facts).webapps = (b.1.factsAt s.facts).webapps := by
  intro a b
  have hservice : ∀ {ops : List Op}, (∀ op ∈ ops, op.isRecording = true) → (run ops h s).2 = s := by
    intro ops hops
    rw [run_service, onStatic_of_isRecording hops]
    rfl
  have ha : a.2 = s := hservice hu
  have hb : b.2 = s := hservice hv
  have hc := commands_snapshot_perm hp (hr s.commands).sound hu hv hsame
  have hm := metrics_snapshot_perm hp (hr s.metrics).sound hu hv hsame
  have hf : a.1.factsAt s.facts = b.1.factsAt s.facts := factsAt_of_recordsSame hp hu hv hsame
  have hsound : ∀ (ops : List Op) (i : Nat), ((run ops h s).1.registry i).Sound :=
    fun ops i => (hr.run ops s i).sound
  refine ⟨?_, ?_, ?_, congrArg Facts.webapps hf⟩
  · rw [ha, hb, step, step, reportNow, reportNow, hf]
    obtain ⟨e, he, he'⟩ | ⟨r, r', hok, hok', halike, hdigest⟩ :=
      s.static.report_of_perm hc hm (b.1.factsAt s.facts)
    · left
      exact ⟨e, by rw [he], by rw [he']⟩
    · right
      exact ⟨r, r', by rw [hok], by rw [hok'], halike, hdigest⟩
  · rw [ha, hb]
    exact ⟨_, _, answer_drainMetrics (hsound u _), answer_drainMetrics (hsound v _),
      Table.alike_of_perm (fun n => beq_self_eq_true n) hm⟩
  · rw [ha, hb]
    exact ⟨_, _, answer_drainCommands (hsound u _), answer_drainCommands (hsound v _),
      Table.alike_of_perm (fun n => beq_self_eq_true n) hc⟩

/-- Five jobs recorded at once and in two portions, with all else in another order. -/
theorem jobs_in_portions :
    let start := Hub.empty.addService (engineStatic "e-1") Facts.initial
    let u : List Op := [.recordCommand "Deploy", .recordMetric "jobs" (.int 5),
      .recordMetric "cases" (.int 1), .addWebapp "cockpit"]
    let v : List Op := [.addWebapp "cockpit", .recordMetric "cases" (.int 1),
      .recordMetric "jobs" (.int 3), .recordMetric "jobs" (.int 2), .recordCommand "Deploy"]
    let a := run u start.1 start.2
    let b := run v start.1 start.2
    start.2.Placed start.1 ∧ start.1.AllReachable ∧ RecordsSame u v ∧
    (∃ r r', (step .report a.1 a.2).answer = .report r ∧
      (step .report b.1 b.2).answer = .report r' ∧ r.alike r' = true ∧
      ∀ hashing : Hashing, hashing.report r = hashing.report r') ∧
    (Site.Answer.service (step .report a.1 a.2).answer).series =
      [[("Deploy", 1)], [("jobs", 5), ("cases", 1)]] ∧
    (Site.Answer.service (step .report b.1 b.2).answer).series =
      [[("Deploy", 1)], [("cases", 1), ("jobs", 5)]] := by
  intro start u v a b
  have own : start.2.Own start.1 := own_addService Hub.empty (engineStatic "e-1") Facts.initial
  have hr : start.1.AllReachable
    | 0 => ⟨Registry.commandKind, true, [], rfl⟩
    | 1 | _ + 2 => ⟨Registry.metricKind, false, [], rfl⟩
  have hsame : RecordsSame u v := by
    have hsplit := RecordsSame.split "jobs" 2 3 [.recordCommand "Deploy"]
      [.recordMetric "cases" (.int 1), .addWebapp "cockpit"]
    exact hsplit.trans (.of_perm (List.reverse_perm v))
  have hu : ∀ op ∈ u, op.isRecording = true := by simp [u, Op.isRecording]
  have hv : ∀ op ∈ v, op.isRecording = true := by simp [v, Op.isRecording]
  obtain ⟨⟨e, he, -⟩ | ⟨r, r', hrep, hrep', halike, hdigest⟩, -⟩ :=
    recordings_in_any_order own.toPlaced hr hu hv hsame
  · cases he
  · have hothers : r.product.internals.webapps.others = [] := by
      cases hrep
      rfl
    have hself : ∀ w ∈ r.product.internals.webapps.others, w.equal w = true := by
      rw [hothers]
      exact fun w hw => absurd hw List.not_mem_nil
    refine ⟨own.toPlaced, hr, hsame, ⟨r, r', hrep, hrep', halike hself, hdigest⟩, ?_, ?_⟩
    · decide +kernel
    · decide +kernel

end Service
end UsageMeter
