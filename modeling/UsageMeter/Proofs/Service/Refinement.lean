import UsageMeter.Proofs.Service.Reference
import UsageMeter.Service.Configured

/-!
A service refines its reference: after any operations, a report is refused or made just as the past
alone says, and making it changes nothing.
-/
namespace UsageMeter.Service

/-- The registries are the service's own: nothing was counted in them before, and the one for
commands is a tracker. -/
structure Own (s : Service) (h : Hub) : Prop extends s.Placed h where
  tracker : (h.registry s.commands).tracker = true
  noCommands : (h.registry s.commands).entries = []
  noMetrics : (h.registry s.metrics).entries = []

/-- A new service has registries of its own. -/
theorem own_addService (h : Hub) (static : StaticData) (facts : Facts) :
    (h.addService static facts).2.Own (h.addService static facts).1 := by
  rw [Hub.addService_eq]
  refine ⟨⟨?_, ?_, ?_, ?_⟩, ?_, ?_, ?_⟩
  · simp
  · simp
  · simp
  · simp
  · simp [Hub.registry, Registry.emptyTracker]
  · simp [Hub.registry, Registry.emptyTracker]
  · simp [Hub.registry, Registry.empty]

theorem requireText_cases (identity : Identity) (v : Value) :
    (∃ text, v = .str text ∧ Text.isBlankText text = false ∧
      requireText identity v = .ok text) ∨
    (¬Named v ∧ ∃ e, requireText identity v = .error e) := by
  cases v with
  | str text =>
    cases hb : Text.isBlankText text with
    | false => exact Or.inl ⟨text, rfl, hb, by simp [requireText, hb]⟩
    | true =>
      refine Or.inr ⟨?_, .blank identity, by simp [requireText, hb]⟩
      rintro ⟨other, he, hother⟩
      cases he
      simp [hb] at hother
  | _ =>
    refine Or.inr ⟨?_, _, rfl⟩
    rintro ⟨text, he, -⟩
    cases he

/-- A report is refused unless both identities are texts with something in them. -/
theorem report_cases (d : StaticData) (commands metrics : Table Nat) (facts : Facts) :
    (∃ installation name, d.installation = .str installation ∧ d.productName = .str name ∧
      Named d.installation ∧ Named d.productName ∧
      d.report commands metrics facts = .ok ⟨installation, ⟨name, d.productVersion,
        d.productEdition, ⟨d.database, d.jdk, d.server, d.license, commands.counts,
          metrics.counts, facts.webapps, facts.enabled⟩⟩⟩) ∨
    (¬(Named d.installation ∧ Named d.productName) ∧
      ∃ e, d.report commands metrics facts = .error e) := by
  obtain ⟨i, hi, hib, hir⟩ | ⟨hi, e, hir⟩ := requireText_cases .installation d.installation
  · obtain ⟨n, hn, hnb, hnr⟩ | ⟨hn, e, hnr⟩ := requireText_cases .productName d.productName
    · refine Or.inl ⟨i, n, hi, hn, ⟨i, hi, hib⟩, ⟨n, hn, hnb⟩, ?_⟩
      rw [StaticData.report, hir, hnr]
      rfl
    · refine Or.inr ⟨fun h => hn h.2, e, ?_⟩
      rw [StaticData.report, hir, hnr]
      rfl
  · refine Or.inr ⟨fun h => hi h.1, e, ?_⟩
    rw [StaticData.report, hir]
    rfl

variable {s : Service} {h : Hub}

theorem counts_commands (own : s.Own h) (past : List Op) :
    ((run past h s).1.registry s.commands).snapshot.counts = commandsAfter past := by
  obtain ⟨hnames, hget⟩ := feeds_commands.run own.tracker own.noCommands past
  rw [registry_commands_run own.toPlaced]
  refine counts_snapshot (Registry.sound_run (Registry.sound_of_entries_eq_nil own.noCommands) _)
    hnames fun name => ?_
  rw [hget, sum_records]

theorem counts_metrics (own : s.Own h) (past : List Op) :
    ((run past h s).1.registry s.metrics).snapshot.counts = metricsAfter past := by
  obtain ⟨hnames, hget⟩ := (feeds_metrics _).run rfl own.noMetrics past
  rw [registry_metrics_run own.toPlaced]
  exact counts_snapshot (Registry.sound_run (Registry.sound_of_entries_eq_nil own.noMetrics) _)
    hnames hget

/-- What a service would report after some operations. -/
theorem reportNow_run (own : s.Own h) (past : List Op) :
    (∃ installation name, (staticAfter s.static past).installation = .str installation ∧
      (staticAfter s.static past).productName = .str name ∧
      Named (staticAfter s.static past).installation ∧
      Named (staticAfter s.static past).productName ∧
      (run past h s).2.reportNow (run past h s).1 =
        .ok (reportAfter s.static (h.factsAt s.facts) past installation name)) ∨
    (¬(Named (staticAfter s.static past).installation ∧
        Named (staticAfter s.static past).productName) ∧
      ∃ e, (run past h s).2.reportNow (run past h s).1 = .error e) := by
  have hf : (run past h s).1.factsAt s.facts = factsAfter (h.factsAt s.facts) past := by
    rw [factsAt_run own.toPlaced, foldl_onFacts]
  have hr : (run past h s).2.reportNow (run past h s).1 =
      (staticAfter s.static past).report ((run past h s).1.registry s.commands).snapshot
        ((run past h s).1.registry s.metrics).snapshot (factsAfter (h.factsAt s.facts) past) := by
    rw [← hf, run_service, foldl_onStatic]
    rfl
  rw [hr]
  have hc := report_cases (staticAfter s.static past)
    ((run past h s).1.registry s.commands).snapshot
    ((run past h s).1.registry s.metrics).snapshot (factsAfter (h.factsAt s.facts) past)
  rw [counts_commands own, counts_metrics own] at hc
  exact hc

theorem getElem?_answers (ops : List Op) (h : Hub) (s : Service) (k : Nat) :
    (answers ops h s)[k]? = (ops[k]?).map fun op =>
      (step op (run (ops.take k) h s).1 (run (ops.take k) h s).2).answer := by
  induction ops generalizing h s k with
  | nil => rfl
  | cons op ops ih =>
    cases k with
    | zero => rfl
    | succ k => exact ih (step op h s).hub (step op h s).service k

/-- Every report among any operations on a service with registries of its own: it is refused
exactly when the installation or the product's name, as last set, is no text or is blank; else it
is the report that the past says; and it changes nothing. Its applications are those registered
since the last reset, with those of the start if there was no reset. -/
theorem reports_follow_past (own : s.Own h) (ops : List Op) (k : Nat)
    (hk : ops[k]? = some .report) :
    let past := ops.take k
    let d := staticAfter s.static past
    ((∃ e, (answers ops h s)[k]? = some (.unidentified e)) ↔
      ¬(Named d.installation ∧ Named d.productName)) ∧
    (Named d.installation ∧ Named d.productName →
      ∃ installation name, d.installation = .str installation ∧ d.productName = .str name ∧
        (answers ops h s)[k]? =
          some (.report (reportAfter s.static (h.factsAt s.facts) past installation name)) ∧
        let start := (h.factsAt s.facts).webapps
        let report := reportAfter s.static (h.factsAt s.facts) past installation name
        let webapps := report.product.internals.webapps
        (∀ app, app ∈ webapps.names.toList ↔ app ∈ (since Op.isReset past).filterMap Op.webapp? ∨
          past.any Op.isReset = false ∧ app ∈ start.names.toList) ∧
        webapps.others = if past.any Op.isReset then [] else start.others) ∧
    run (ops.take (k + 1)) h s = run past h s := by
  intro past d
  have ha : (answers ops h s)[k]? =
      some (step .report (run past h s).1 (run past h s).2).answer := by
    rw [getElem?_answers, hk]
    rfl
  have hrun : run (ops.take (k + 1)) h s = run past h s := by
    have hlt := (List.getElem?_eq_some_iff.1 hk).1
    have htake : ops.take (k + 1) = past ++ [.report] := by
      rw [List.take_add_one, hk]
      rfl
    obtain ⟨hh, hs⟩ := step_report (run past h s).1 (run past h s).2
    rw [htake, run_concat, hh, hs]
  rw [ha, step]
  obtain ⟨installation, name, hi, hn, hin, hnn, hr⟩ | ⟨hnot, e, hr⟩ := reportNow_run own past
  · rw [hr]
    refine ⟨?_, fun _ => ⟨installation, name, hi, hn, rfl, fun _ => mem_webappsAfter,
      others_webappsAfter _ past⟩, hrun⟩
    constructor
    · rintro ⟨e, he⟩
      simp at he
    · intro hnot
      exact absurd ⟨hin, hnn⟩ hnot
  · rw [hr]
    exact ⟨⟨fun _ => hnot, fun _ => ⟨e, rfl⟩⟩, fun hboth => absurd hboth hnot, hrun⟩

/-- Static data of an engine under some installation. -/
def engineStatic (installation : String) : StaticData :=
  ⟨.str installation, .str "Engine", "1.0", "community", ⟨"H2", "2.3"⟩, ⟨"OpenJDK", "21"⟩, none,
    none⟩

def workday : List Op :=
  [.recordCommand "DeployCmd", .recordMetric "started" (.int 2), .addWebapp "shop", .drainMetrics,
    .recordMetric "failed" (.bool true), .report, .setStatic (engineStatic " "), .report]

theorem workday_reports :
    let out := Hub.empty.addService (engineStatic "e-1") Facts.initial
    (∃ r, (answers workday out.1 out.2)[5]? = some (.report r) ∧
      r.product.internals.commands.entries = [("DeployCmd", 1)] ∧
      r.product.internals.metrics.entries = [("started", 0), ("failed", 0)] ∧
      ∀ app, app ∈ r.product.internals.webapps.names.toList ↔ app = "shop") ∧
    (∃ e, (answers workday out.1 out.2)[7]? = some (.unidentified e)) ∧
    run (workday.take 8) out.1 out.2 = run (workday.take 7) out.1 out.2 := by
  intro out
  have own : out.2.Own out.1 := own_addService Hub.empty (engineStatic "e-1") Facts.initial
  have hnamed : Named (Value.str "e-1") := ⟨"e-1", rfl, by decide⟩
  have hproduct : Named (Value.str "Engine") := ⟨"Engine", rfl, by decide⟩
  have hblank : ¬Named (Value.str " ") := by
    rintro ⟨text, he, hb⟩
    cases he
    revert hb
    decide
  obtain ⟨-, hreport, -⟩ := reports_follow_past own workday 5 rfl
  obtain ⟨installation, name, -, -, hanswer, hwebapps, -⟩ := hreport ⟨hnamed, hproduct⟩
  obtain ⟨hrefused, -, hsame⟩ := reports_follow_past own workday 7 rfl
  have hcommands : (commandsAfter (workday.take 5)).entries = [("DeployCmd", 1)] := by decide
  have hmetrics : (metricsAfter (workday.take 5)).entries = [("started", 0), ("failed", 0)] := by
    decide
  have hregistered : (since Op.isReset (workday.take 5)).filterMap Op.webapp? = ["shop"] := rfl
  have hnone : (out.1.factsAt out.2.facts).webapps.names.toList = [] := rfl
  refine ⟨⟨_, hanswer, hcommands, hmetrics, fun app => ?_⟩, hrefused.2 fun h => hblank h.1, hsame⟩
  rw [hwebapps, hregistered, hnone, List.mem_singleton]
  simp

end UsageMeter.Service
