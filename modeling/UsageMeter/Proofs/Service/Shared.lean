import UsageMeter.Proofs.Service.Apart

/-!
Shared parts. Services over the same registries and facts show one use, and each its own static
data.
-/
namespace UsageMeter

/-- A report of a service over the parts lists what the parts show. -/
theorem Site.report_of_shares {site : Site} {p : Parts} {k : Nat} (hk : site.Shares p k)
    {r : Report} (hr : (step (.service k .report) site).answer = .service (.report r)) :
    r.product.internals.commands = (site.hub.registry p.commands).snapshot.counts ∧
    r.product.internals.metrics = (site.hub.registry p.metrics).snapshot.counts ∧
    r.product.internals.webapps = (site.hub.factsAt p.facts).webapps ∧
    r.product.internals.enabled = (site.hub.factsAt p.facts).enabled := by
  obtain ⟨s, hs, rfl⟩ := Option.map_eq_some_iff.1 hk
  rw [Service.internals_reportNow (reportNow_of_report hs hr)]
  exact ⟨rfl, rfl, rfl, rfl⟩

/-- Parts that are supplied to services are shared by them, whatever was counted there before. A
service that is made over supplied parts is added to the site, which else stays as it is, and never
gets other parts. Deeds that differ only in the doors to the parts have the same results and leave
the same sites, one by one. At every point two services over the parts report the same commands,
metrics, web applications and switch, if they report. And a service's static data is what was set on
it: the deeds that set it change no other service and no part, nor what any deed gives that is not
for that service alone. -/
theorem supplied_parts_are_shared (site : Site) (p : Parts) :
    (∀ static, site.addService static (some p.commands) (some p.metrics) (some p.facts) =
      ⟨site.hub, site.services ++ [⟨static, p.commands, p.metrics, p.facts⟩]⟩) ∧
    (∀ k, site.Shares p k → ∀ deeds, (Deed.after p deeds site).Shares p k) ∧
    (∀ deeds others, Deed.AllOpen p deeds site → Deed.AllOpen p others site →
      deeds.map Deed.directly = others.map Deed.directly →
      (Deed.trace p deeds site).map Deed.Done.result =
        (Deed.trace p others site).map Deed.Done.result) ∧
    (∀ deeds j k r q, let now := Deed.after p deeds site
      now.Shares p j → now.Shares p k →
      (now.step (.service j .report)).answer = .service (.report r) →
      (now.step (.service k .report)).answer = .service (.report q) →
      r.product.internals.commands = q.product.internals.commands ∧
      r.product.internals.metrics = q.product.internals.metrics ∧
      r.product.internals.webapps = q.product.internals.webapps ∧
      r.product.internals.enabled = q.product.internals.enabled) ∧
    ∀ k s, site.services[k]? = some s → ∀ deeds,
      let kept := deeds.filter fun d => !d.setsStatic k
      let now := Deed.after p deeds site
      (now.services[k]?).map Service.static =
        some ((deeds.filterMap (Deed.on? k)).foldl Service.Op.onStatic s.static) ∧
      now.hub = (Deed.after p kept site).hub ∧
      (∀ j, j ≠ k → now.services[j]? = (Deed.after p kept site).services[j]?) ∧
      Deed.givenBeside p k deeds site = Deed.givenBeside p k kept site := by
  refine ⟨site.addService_supplied p, fun k hk deeds => Deed.shares_after hk deeds, ?_, ?_, ?_⟩
  · intro deeds others hdeeds hothers hsame
    rw [Deed.trace_directly hdeeds, Deed.trace_directly hothers, hsame]
  · intro deeds j k r q now hj hk hr hq
    obtain ⟨hrc, hrm, hrw, hre⟩ := Site.report_of_shares hj hr
    obtain ⟨hqc, hqm, hqw, hqe⟩ := Site.report_of_shares hk hq
    exact ⟨hrc.trans hqc.symm, hrm.trans hqm.symm, hrw.trans hqw.symm, hre.trans hqe.symm⟩
  · intro k s hs deeds kept now
    have hlt : k < site.services.length := (List.getElem?_eq_some_iff.1 hs).1
    obtain ⟨hsplit, hbeside⟩ := Deed.splits_static (p := p) deeds hlt s.static
    rw [Site.withStatic_self hs] at hsplit hbeside
    have hnow : now = (Deed.after p kept site).withStatic k
        ((deeds.filterMap (Deed.on? k)).foldl Service.Op.onStatic s.static) := hsplit
    refine ⟨?_, ?_, fun j hj => ?_, hbeside⟩
    · rw [hnow]
      exact Site.static_withStatic (Deed.length_services_after kept hlt) _
    · rw [hnow]
      rfl
    · rw [hnow]
      exact Site.services_withStatic_of_ne hj _

/-- Two services over parts that were new when the services were made. -/
def sharedSite : Site :=
  ((Site.mk ⟨[.emptyTracker, .empty Registry.metricKind], [.initial]⟩ []).addService
    (Service.engineStatic "e-1") (some 0) (some 1) (some 0)).addService
    (Service.engineStatic "e-2") (some 0) (some 1) (some 0)

theorem two_services_share :
    let p : Parts := ⟨0, 1, 0⟩
    let server : Deed := .other (.service 1 (.setServer (some ⟨"Tomcat", "10"⟩)))
    let deeds : List Deed := [.shared (.service 0) (.recordMetric "jobs" (.int 2)), server,
      .shared .direct (.addWebapp "cockpit")]
    let others : List Deed := [.shared .direct (.recordMetric "jobs" (.int 2)), server,
      .shared (.service 1) (.addWebapp "cockpit")]
    let now := Deed.after p deeds sharedSite
    (Deed.trace p deeds sharedSite).map Deed.Done.result =
      (Deed.trace p others sharedSite).map Deed.Done.result ∧
    (∃ r q, (now.step (.service 0 .report)).answer = .service (.report r) ∧
      (now.step (.service 1 .report)).answer = .service (.report q) ∧
      r.product.internals.metrics = q.product.internals.metrics ∧
      q.product.internals.metrics.entries = [("jobs", 2)] ∧
      r.product.internals.server = none ∧ q.product.internals.server = some ⟨"Tomcat", "10"⟩) ∧
    (now.services[0]?).map Service.static = some (Service.engineStatic "e-1") := by
  intro p server deeds others now
  obtain ⟨-, hshares, hdoors, hreports, hapart⟩ := supplied_parts_are_shared sharedSite p
  have hfirst : sharedSite.Shares p 0 := rfl
  have hsecond : sharedSite.Shares p 1 := rfl
  have hdeeds : Deed.AllOpen p deeds sharedSite := ⟨⟨rfl, rfl⟩, trivial, rfl, trivial⟩
  have hothers : Deed.AllOpen p others sharedSite := ⟨rfl, trivial, ⟨rfl, rfl⟩, trivial⟩
  obtain ⟨hstatic, -⟩ := hapart 0 _ rfl deeds
  refine ⟨hdoors deeds others hdeeds hothers rfl, ⟨_, _, rfl, rfl, ?_, ?_, rfl, rfl⟩, hstatic⟩
  · exact (hreports deeds 0 1 _ _ (hshares 0 hfirst deeds) (hshares 1 hsecond deeds) rfl rfl).2.1
  · rfl

end UsageMeter
