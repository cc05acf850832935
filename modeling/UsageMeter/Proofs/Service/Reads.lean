import UsageMeter.Proofs.Service.Refinement
import UsageMeter.Proofs.Service.Site

/-!
Reads of a site. A read changes nothing and logs nothing, so whatever else is done has the same
results with and without it. All reads of the counts list the same names and values in the same
order, and what they give back refers to no counter that could still change.
-/
namespace UsageMeter

/-! ## Reads change nothing -/

def Registry.Op.isRead : Registry.Op → Bool
  | .get _ | .snapshot | .names | .contains _ | .size | .getAt _ => true
  | _ => false

def Facts.Op.isRead : Facts.Op → Bool
  | .isEnabled | .webapps | .snapshot => true
  | _ => false

def Service.Op.isRead : Service.Op → Bool
  | .report | .isEnabled => true
  | _ => false

def Site.Op.isRead : Site.Op → Bool
  | .registry _ op => op.isRead
  | .facts _ op => op.isRead
  | .service _ op => op.isRead
  | .collect _ => true
  | .observe _ => true

theorem Registry.step_of_isRead {op : Registry.Op} (h : op.isRead = true) (r : Registry) :
    (step op r).1 = r ∧ events op r = [] := by
  cases op with
  | get _ | snapshot | names | contains _ | size | getAt _ => exact ⟨rfl, rfl⟩
  | _ => simp [Op.isRead] at h

theorem Facts.step_of_isRead {op : Facts.Op} (h : op.isRead = true) (f : Facts) :
    (step op f).1 = f ∧ events op f = [] := by
  cases op with
  | isEnabled | webapps | snapshot => exact ⟨rfl, rfl⟩
  | _ => simp [Op.isRead] at h

theorem Service.step_of_isRead {op : Service.Op} (h : op.isRead = true) (hub : Hub)
    (s : Service) :
    (step op hub s).hub = hub ∧ (step op hub s).service = s ∧ (step op hub s).events = [] := by
  cases op with
  | isEnabled => exact ⟨rfl, rfl, rfl⟩
  | report =>
    rw [step]
    cases s.reportNow hub <;> exact ⟨rfl, rfl, rfl⟩
  | _ => simp [Op.isRead] at h

namespace Site

theorem step_of_isRead {op : Op} (h : op.isRead = true) (site : Site) :
    (step op site).after = site ∧ (step op site).events = [] := by
  obtain ⟨hub, services⟩ := site
  cases op with
  | registry i rop =>
    obtain ⟨hsame, hnone⟩ := Registry.step_of_isRead h (hub.registry i)
    refine ⟨?_, hnone⟩
    change Site.mk (hub.setRegistry i (Registry.step rop (hub.registry i)).1) services = _
    rw [hsame, Hub.setRegistry_registry]
  | facts i fop =>
    obtain ⟨hsame, hnone⟩ := Facts.step_of_isRead h (hub.factsAt i)
    refine ⟨?_, hnone⟩
    change Site.mk (hub.setFacts i (Facts.step fop (hub.factsAt i)).1) services = _
    rw [hsame, Hub.setFacts_factsAt]
  | service k sop =>
    rw [step]
    cases hk : services[k]? with
    | none => exact ⟨rfl, rfl⟩
    | some s =>
      obtain ⟨hhub, hservice, hnone⟩ := Service.step_of_isRead h hub s
      refine ⟨?_, hnone⟩
      change Site.mk (Service.step sop hub s).hub
        (services.set k (Service.step sop hub s).service) = _
      rw [hhub, hservice, set_of_getElem? hk]
  | collect _ | observe _ => exact ⟨rfl, rfl⟩

/-! ## Runs with and without some reads -/

/-- What is left of a list without the items that bear a mark. -/
def unmarked {α : Type} (items : List (Bool × α)) : List α :=
  (items.filter fun item => !item.1).map Prod.snd

theorem unmarked_cons {α : Type} (mark : Bool) (x : α) (items : List (Bool × α)) :
    unmarked ((mark, x) :: items) = if mark then unmarked items else x :: unmarked items := by
  cases mark <;> rfl

variable {ops : List (Bool × Op)}

theorem run_unmarked (h : ∀ o ∈ ops, o.1 = true → o.2.isRead = true) (site : Site) :
    run (ops.map Prod.snd) site = run (unmarked ops) site := by
  induction ops generalizing site with
  | nil => rfl
  | cons o ops ih =>
    obtain ⟨mark, op⟩ := o
    have hrest := ih fun o ho => h o (by simp [ho])
    rw [unmarked_cons]
    cases mark with
    | true =>
      have hread : op.isRead = true := h (true, op) (by simp) rfl
      rw [List.map_cons, run, (step_of_isRead hread site).1, hrest]
      rfl
    | false =>
      rw [List.map_cons, run, hrest]
      rfl

theorem trace_unmarked (h : ∀ o ∈ ops, o.1 = true → o.2.isRead = true) (site : Site) :
    unmarked ((ops.map Prod.fst).zip (trace (ops.map Prod.snd) site)) =
      trace (unmarked ops) site := by
  induction ops generalizing site with
  | nil => rfl
  | cons o ops ih =>
    obtain ⟨mark, op⟩ := o
    have hrest := ih fun o ho => h o (by simp [ho])
    rw [List.map_cons, List.map_cons, trace, List.zip_cons_cons, unmarked_cons, unmarked_cons,
      hrest]
    cases mark with
    | true =>
      -- The rest goes on from the same site, so only the read itself is missing from the trace.
      have hread : op.isRead = true := h (true, op) (by simp) rfl
      rw [(step_of_isRead hread site).1]
      rfl
    | false => rfl

end Site

/-! ## Series -/

/-- The names of a registry in order, each with its value. -/
def Registry.listed (r : Registry) : List (String × Int) :=
  r.names.map fun name => (name, (r.get name : Int))

/-- The labels and values of a family's samples. -/
def Export.Family.series (f : Export.Family) : List (String × Int) :=
  f.samples.map fun s => ((s.labels.map Prod.snd).headD "", (s.value : Int))

/-- A report has the service's static data and what its registries and facts show. -/
theorem Service.internals_reportNow {s : Service} {h : Hub} {r : Report}
    (hr : s.reportNow h = .ok r) :
    r.product.internals = ⟨s.static.database, s.static.jdk, s.static.server, s.static.license,
      (h.registry s.commands).snapshot.counts, (h.registry s.metrics).snapshot.counts,
      (h.factsAt s.facts).webapps, (h.factsAt s.facts).enabled⟩ := by
  rw [reportNow] at hr
  obtain ⟨i, n, -, -, -, -, hok⟩ | ⟨-, e, he⟩ := report_cases s.static
    (h.registry s.commands).snapshot (h.registry s.metrics).snapshot (h.factsAt s.facts)
  · rw [hok] at hr
    cases hr
    rfl
  · rw [he] at hr
    cases hr

namespace Site

/-- The series of counts in an answer, each a list of names with values. -/
def Answer.series : Answer → List (List (String × Int))
  | .registry _ (.counts t) => [t.counts.toList]
  | .service (.counts t) => [t.counts.toList]
  | .service (.report r) =>
    [r.product.internals.commands.toList, r.product.internals.metrics.toList]
  | .families fs => (fs.filter fun f => f.type = .counter).map Export.Family.series
  | .points ps => [ps.map fun p => (p.label.2, (p.value : Int))]
  | _ => []

theorem listed_eq {r : Registry} (h : r.Sound) : r.snapshot.counts.toList = r.listed := by
  have hc : r.snapshot.counts.toList = r.snapshot.entries.map fun e => (e.1, (e.2 : Int)) := rfl
  rw [hc, h.entries_snapshot, h.pairs_eq, List.map_map]
  rfl

theorem series_counterFamily (name documentation label : String) (t : Table Nat) :
    (Export.counterFamily name documentation label t).series = t.counts.toList := by
  rw [Export.Family.series, Export.counterFamily, List.map_map]
  rfl

theorem series_collect (c : Export.Collector) (site : Site) :
    (step (.collect c) site).answer.series =
      [(site.hub.registry c.commands).snapshot.counts.toList,
        (site.hub.registry c.metrics).snapshot.counts.toList] := by
  have hcounters : (c.collect site.hub).filter (fun f => f.type = .counter) =
      [Export.counterFamily (c.familyNamespace ++ "_command_invocations")
          Export.commandDocumentation "command" (site.hub.registry c.commands).snapshot,
        Export.counterFamily (c.familyNamespace ++ "_metric_events")
          Export.metricDocumentation "metric" (site.hub.registry c.metrics).snapshot] := by
    rw [Export.Collector.collect]
    cases c.facts <;> rfl
  change ((c.collect site.hub).filter fun f => f.type = .counter).map Export.Family.series = _
  rw [hcounters, List.map_cons, List.map_cons, List.map_nil, series_counterFamily,
    series_counterFamily]

theorem series_observe (i : Export.Instrument) (site : Site) :
    (step (.observe i) site).answer.series =
      [(site.hub.registry i.registry).snapshot.counts.toList] := by
  change [(i.observe site.hub).map fun p => (p.label.2, (p.value : Int))] = _
  rw [Export.Instrument.observe, List.map_map]
  rfl

theorem reportNow_of_report {site : Site} {k : Nat} {s : Service}
    (hs : site.services[k]? = some s) {r : Report}
    (h : (step (.service k .report) site).answer = .service (.report r)) :
    s.reportNow site.hub = .ok r := by
  have ha : (Service.step .report site.hub s).answer = .report r := by
    simp only [step, hs] at h
    exact Answer.service.inj h
  rw [Service.step] at ha
  cases hr : s.reportNow site.hub with
  | error e => simp [hr] at ha
  | ok r' =>
    rw [hr] at ha
    cases ha
    rfl

theorem series_report {site : Site} {k : Nat} {s : Service} (hs : site.services[k]? = some s)
    {r : Report} (h : (step (.service k .report) site).answer = .service (.report r)) :
    (step (.service k .report) site).answer.series =
      [(site.hub.registry s.commands).snapshot.counts.toList,
        (site.hub.registry s.metrics).snapshot.counts.toList] := by
  rw [h, Answer.series, Service.internals_reportNow (reportNow_of_report hs h)]

/-! ## Answers looked at later -/

/-- The counter that an answer refers to, as it is in a hub. -/
def Answer.referent? (h : Hub) : Answer → Option Counter
  | .registry i (.counter k) => (h.registry i).counters[k]?
  | _ => none

/-- All that can be learned from an answer while a hub is as it is. -/
def Answer.shown (h : Hub) (a : Answer) : Answer × Option Counter :=
  (a, a.referent? h)

theorem referent?_of_isRead {op : Op} (h : op.isRead = true) (site : Site) (hub : Hub) :
    (step op site).answer.referent? hub = none := by
  cases op with
  | registry i rop =>
    cases rop with
    | get _ | snapshot | names | contains _ | size | getAt _ => rfl
    | _ => simp [Op.isRead, Registry.Op.isRead] at h
  | service k sop =>
    rw [step]
    cases site.services[k]? <;> rfl
  | facts _ _ | collect _ | observe _ => rfl

theorem exists_step_of_mem_trace {ops : List Op} {site : Site} {e : Performed}
    (h : e ∈ trace ops site) : ∃ before, e = step e.op before := by
  induction ops generalizing site with
  | nil => cases h
  | cons op ops ih =>
    obtain rfl | h := List.mem_cons.1 h
    · exact ⟨site, by rw [step_op]⟩
    · exact ih h

theorem shown_of_mem_trace {ops : List Op} {site : Site} {e : Performed}
    (h : e ∈ trace ops site) (hr : e.op.isRead = true) (hub hub' : Hub) :
    e.answer.shown hub = e.answer.shown hub' := by
  obtain ⟨before, he⟩ := exists_step_of_mem_trace h
  have hnone : ∀ hub, e.answer.referent? hub = none := by
    intro hub
    rw [he]
    exact referent?_of_isRead hr before hub
  rw [Answer.shown, Answer.shown, hnone, hnone]

/-! ## All reads -/

/-- Whatever reads the counts of a service lists the names of its registries with their values. -/
structure ReadsAgree (site : Site) (k : Nat) (s : Service) : Prop where
  commands : (step (.registry s.commands .snapshot) site).answer.series =
    [(site.hub.registry s.commands).listed]
  metrics : (step (.registry s.metrics .snapshot) site).answer.series =
    [(site.hub.registry s.metrics).listed]
  collected : ∀ facts start,
    (step (.collect ⟨s.commands, s.metrics, facts, start⟩) site).answer.series =
      [(site.hub.registry s.commands).listed, (site.hub.registry s.metrics).listed]
  commandsObserved : ∀ start,
    (step (.observe (Export.commandInstrument start s.commands)) site).answer.series =
      [(site.hub.registry s.commands).listed]
  metricsObserved : ∀ start,
    (step (.observe (Export.metricInstrument start s.metrics)) site).answer.series =
      [(site.hub.registry s.metrics).listed]
  reported : ∀ r, (step (.service k .report) site).answer = .service (.report r) →
    (step (.service k .report) site).answer.series =
      [(site.hub.registry s.commands).listed, (site.hub.registry s.metrics).listed]

theorem readsAgree {site : Site} (hr : site.hub.AllReachable) {k : Nat} {s : Service}
    (hs : site.services[k]? = some s) : ReadsAgree site k s := by
  have hc := listed_eq (hr s.commands).sound
  have hm := listed_eq (hr s.metrics).sound
  exact
    { commands := congrArg (fun l => [l]) hc
      metrics := congrArg (fun l => [l]) hm
      collected := fun facts start => by rw [series_collect, hc, hm]
      commandsObserved := fun start =>
        (series_observe _ site).trans (congrArg (fun l => [l]) hc)
      metricsObserved := fun start =>
        (series_observe _ site).trans (congrArg (fun l => [l]) hm)
      reported := fun r h => by rw [series_report hs h, hc, hm] }

/-- Reads are invisible and agree. If marked operations of a run are all reads, the run without them
reaches the same site, and everything else in it is performed with the same answers, events and
sites. At every point of a run, a snapshot, a collector, the observable instruments and a report
that is made list the same commands and metrics, in the order of their names and with their values.
And whatever is done after a read, its answer is still in the trace and shows what it showed. -/
theorem reads_invisible_and_agree (start : Site) (hr : start.hub.AllReachable) :
    (∀ ops : List (Bool × Op), (∀ o ∈ ops, o.1 = true → o.2.isRead = true) →
      run (ops.map Prod.snd) start = run (unmarked ops) start ∧
      unmarked ((ops.map Prod.fst).zip (trace (ops.map Prod.snd) start)) =
        trace (unmarked ops) start) ∧
    (∀ ops k s, (run ops start).services[k]? = some s → ReadsAgree (run ops start) k s) ∧
    ∀ ops more, trace ops start <+: trace (ops ++ more) start ∧
      ∀ e ∈ trace ops start, e.op.isRead = true →
        e.answer.shown (run (ops ++ more) start).hub = e.answer.shown e.after.hub := by
  refine ⟨?_, ?_, ?_⟩
  · intro ops h
    exact ⟨run_unmarked h start, trace_unmarked h start⟩
  · intro ops k s hs
    exact readsAgree (allReachable_run hr ops) hs
  · intro ops more
    refine ⟨?_, ?_⟩
    · rw [trace_append]
      exact List.prefix_append _ _
    · intro e he hread
      exact shown_of_mem_trace he hread _ _

def sampleSite : Site :=
  ⟨⟨[Registry.emptyTracker, Registry.empty Registry.metricKind], [Facts.initial]⟩,
    [⟨⟨.str "site", .str "Engine", "", "", ⟨"", ""⟩, ⟨"", ""⟩, none, none⟩, 0, 1, 0⟩]⟩

theorem allReachable_sampleSite : sampleSite.hub.AllReachable
  | 0 => ⟨Registry.commandKind, true, [], rfl⟩
  | 1 | _ + 2 => ⟨Registry.metricKind, false, [], rfl⟩

/-- A scrape and a report among records. The counter that was taken first is a live one:
what it shows moves, what the scrape shows does not. -/
theorem scrape_between_records :
    let scrape : Op := .collect ⟨0, 1, some 0, "engine"⟩
    let ops : List (Bool × Op) := [(false, .registry 1 (.register "jobs")),
      (false, .service 0 (.recordCommand "Deploy")), (true, scrape),
      (false, .service 0 (.recordMetric "jobs" (.int 3))), (true, .service 0 .report)]
    let now := run (ops.map Prod.snd) sampleSite
    now = run (unmarked ops) sampleSite ∧
    (step scrape now).answer.series = [[("Deploy", 1)], [("jobs", 3)]] ∧
    (step (.service 0 .report) now).answer.series = [[("Deploy", 1)], [("jobs", 3)]] ∧
    (∃ e ∈ trace (ops.map Prod.snd) sampleSite,
      e.answer.shown now.hub = e.answer.shown e.after.hub ∧
        e.answer.series = [[("Deploy", 1)], [("jobs", 0)]]) ∧
    ∃ e ∈ trace (ops.map Prod.snd) sampleSite,
      e.answer.referent? now.hub = some ⟨"jobs", 3⟩ ∧
        e.answer.referent? e.after.hub = some ⟨"jobs", 0⟩ := by
  intro scrape ops now
  obtain ⟨herase, hagree, hkept⟩ :=
    reads_invisible_and_agree sampleSite allReachable_sampleSite
  have hnow := hagree (ops.map Prod.snd) 0 _ rfl
  have hreads : ∀ o ∈ ops, o.1 = true → o.2.isRead = true := by
    simp [ops, scrape, Op.isRead, Service.Op.isRead]
  obtain ⟨-, hshown⟩ := hkept (ops.map Prod.snd) []
  refine ⟨(herase ops hreads).1, (hnow.collected (some 0) "engine").trans rfl,
    (hnow.reported _ rfl).trans rfl, ?_, ?_⟩
  · have hm : step scrape (run ((ops.map Prod.snd).take 2) sampleSite) ∈
        trace (ops.map Prod.snd) sampleSite := .tail _ (.tail _ (.head _))
    exact ⟨_, hm, (hshown _ hm rfl), rfl⟩
  · exact ⟨_, .head _, rfl, rfl⟩

end Site
end UsageMeter
