import UsageMeter.Proofs.Config.Settings
import UsageMeter.Proofs.Report.Alike
import UsageMeter.Proofs.Report.Vendor
import UsageMeter.Proofs.Service.Refinement

/-!
Services made from settings. Settings that were read name an installation and a product, and no
operation but one that sets all static data takes these names away, so that such a service can
always report.
-/
namespace UsageMeter

theorem Config.Trimmed.named {s : String} (h : Config.Trimmed s) : Service.Named (.str s) := by
  refine ⟨s, rfl, ?_⟩
  rw [← Bool.not_eq_true, Config.isBlankText_eq_true_iff, h.trim_eq]
  exact h.1

theorem Webapps.mem_toValues_ofNames {v : Value} {names : List String} :
    v ∈ (Webapps.ofNames names).toValues ↔ ∃ name ∈ names, v = .str name := by
  simp only [Webapps.ofNames, Webapps.toValues, List.append_nil, List.mem_map, NameSet.toList,
    NameSet.mem_ofList]
  constructor
  · rintro ⟨name, hm, rfl⟩
    exact ⟨name, hm, rfl⟩
  · rintro ⟨name, hm, rfl⟩
    exact ⟨name, hm, rfl⟩

namespace Service

theorem latest_of_none {α : Type} {set? : Op → Option α} {past : List Op}
    (h : ∀ op ∈ past, set? op = none) (start : α) : latest set? start past = start := by
  rw [latest, List.filterMap_eq_nil_iff.2 h]
  rfl

/-- Licences and servers come and go, the identities stay. -/
theorem identities_staticAfter {past : List Op} (h : ∀ d, Op.setStatic d ∉ past)
    (start : StaticData) :
    (staticAfter start past).installation = start.installation ∧
      (staticAfter start past).productName = start.productName := by
  have hnone : ∀ op ∈ past, op.static? = none := by
    intro op hop
    cases op with
    | setStatic d => exact absurd hop (h d)
    | _ => rfl
  have hl : latest Op.static? start past = start := latest_of_none hnone start
  simp only [staticAfter, hl, and_self]

theorem answer_report {s : Service} {h : Hub} {r : Report} (hr : s.reportNow h = .ok r) :
    (step .report h s).answer = .report r := by
  rw [step, hr]

theorem factsAt_addService (h : Hub) (static : StaticData) (facts : Facts) :
    (h.addService static facts).1.factsAt (h.addService static facts).2.facts = facts := by
  simp [Hub.addService_eq, Hub.factsAt]

/-- A service made from settings reports after every run that sets no static data as a whole. -/
theorem reportNow_configured {env : Config.Environment} {c : Config.Settings}
    (hc : env.settings = .ok c) (h : Hub) {ops : List Op} (hops : ∀ d, Op.setStatic d ∉ ops) :
    let start := h.addConfigured c
    (run ops start.1 start.2).2.reportNow (run ops start.1 start.2).1 =
      .ok (reportAfter (.ofSettings c) (.ofSettings c) ops c.installationId c.productName) := by
  intro start
  have hw := Config.wellFormed_of_settings hc
  have own : start.2.Own start.1 := own_addService h (.ofSettings c) (.ofSettings c)
  have hfacts : start.1.factsAt start.2.facts = .ofSettings c :=
    factsAt_addService h (.ofSettings c) (.ofSettings c)
  obtain ⟨hi, hn⟩ := identities_staticAfter hops start.2.static
  obtain ⟨installation, name, hi', hn', -, -, hr⟩ | ⟨hnot, -⟩ := reportNow_run own ops
  · rw [hfacts] at hr
    have hei : Value.str c.installationId = .str installation := hi.symm.trans hi'
    have hen : Value.str c.productName = .str name := hn.symm.trans hn'
    cases hei
    cases hen
    exact hr
  · refine absurd ⟨?_, ?_⟩ hnot
    · rw [hi]
      exact hw.installationId.1.named
    · rw [hn]
      exact hw.productName.named

/-- A service made from settings that were read makes a report after any operations that set no
static data as a whole, under the installation and product name of the settings. Its first report
has the web applications, switch and server of the settings, no counts and no licence. -/
theorem configured_service_reports {env : Config.Environment} {c : Config.Settings}
    (hc : env.settings = .ok c) (h : Hub) :
    let start := h.addConfigured c
    (∀ ops : List Op, (∀ d, Op.setStatic d ∉ ops) →
      ∃ r, (step .report (run ops start.1 start.2).1 (run ops start.1 start.2).2).answer =
          .report r ∧
        r.installation = c.installationId ∧ r.product.name = c.productName) ∧
    ∃ r, (step .report start.1 start.2).answer = .report r ∧
      (∀ v, v ∈ r.product.internals.webapps.toValues ↔ ∃ name ∈ c.webapps, v = .str name) ∧
      r.product.internals.enabled = c.enabled ∧
      r.product.internals.commands = .empty ∧ r.product.internals.metrics = .empty ∧
      r.product.internals.license = none ∧
      r.product.internals.server.map Component.version = c.server := by
  intro start
  refine ⟨fun ops hops => ?_, ?_⟩
  · have hr := reportNow_configured hc h hops
    exact ⟨_, answer_report hr, rfl, rfl⟩
  · have hnone : ∀ d, Op.setStatic d ∉ ([] : List Op) := fun d => List.not_mem_nil
    have hr := reportNow_configured hc h hnone
    refine ⟨_, answer_report hr, fun v => Webapps.mem_toValues_ofNames, rfl, rfl, rfl, rfl, ?_⟩
    have hserver : c.server.filter (· ≠ "") = c.server := by
      cases hinfo : c.server with
      | none => rfl
      | some info => simp [((Config.wellFormed_of_settings hc).server info hinfo).1]
    change ((c.server.filter (· ≠ "")).map Component.ofServerInfo).map Component.version = c.server
    rw [hserver, Option.map_map]
    refine (Option.map_congr fun info _ => ?_).trans Option.map_id'
    exact Component.version_ofServerInfo info

/-- Variables of an engine in a servlet container. -/
def containerEnvironment : Config.Environment :=
  fun name =>
    [(Config.Variable.installationId.name, " cb07ce31-c8e3-4f5f-94c2-1b28175c2022"),
      (Config.Variable.productName.name, "\u2003Runtime\u00a0"),
      (Config.Variable.server.name, "Apache Tomcat/10.0.1"),
      (Config.Variable.enabled.name, "on"),
      (Config.Variable.webapps.name, "cockpit, admin,cockpit")].lookup name

theorem container_service_reports :
    ∃ c, containerEnvironment.settings = .ok c ∧
      let start := Hub.empty.addConfigured c
      let ops : List Op := [.recordMetric "jobs" (.int (-1)), .setServer none, .reset, .report]
      (∀ d, Op.setStatic d ∉ ops) ∧
      (∃ r, (step .report (run ops start.1 start.2).1 (run ops start.1 start.2).2).answer =
          .report r ∧ r.product.name = "Runtime") ∧
      ∃ r, (step .report start.1 start.2).answer = .report r ∧
        Value.str "admin" ∈ r.product.internals.webapps.toValues ∧
        r.product.internals.enabled = true ∧
        r.product.internals.server.map Component.version = some "Apache Tomcat/10.0.1" := by
  have hc : containerEnvironment.settings = .ok ⟨"cb07ce31-c8e3-4f5f-94c2-1b28175c2022", "Runtime",
      "", "community", "", "", some "Apache Tomcat/10.0.1", "", "", true,
      ["cockpit", "admin"]⟩ := by
    rfl
  obtain ⟨hlater, r, hr, hwebapps, henabled, -, -, -, hserver⟩ :=
    configured_service_reports hc Hub.empty
  refine ⟨_, hc, by simp, ?_, r, hr, ?_, henabled, hserver⟩
  · obtain ⟨r', hr', -, hname⟩ := hlater [.recordMetric "jobs" (.int (-1)), .setServer none,
      .reset, .report] (by simp)
    exact ⟨r', hr', hname⟩
  · exact (hwebapps _).2 ⟨"admin", by simp, rfl⟩

end Service
end UsageMeter
