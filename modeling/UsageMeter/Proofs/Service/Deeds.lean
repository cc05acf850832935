import UsageMeter.Proofs.Service.Reads
import UsageMeter.Service.Supplied

/-!
Deeds on a site. Services over the same registries and facts are so many doors to them: it does not
matter through which door something is done, or whether it is done on the parts themselves.
-/
namespace UsageMeter

/-- Two registries and facts. -/
structure Parts where
  commands : Nat
  metrics : Nat
  facts : Nat

namespace Service

def parts (s : Service) : Parts :=
  ⟨s.commands, s.metrics, s.facts⟩

namespace Op

/-- An operation on the registries and facts alone. -/
def isShared : Op → Bool
  | .recordCommand _ | .recordMetric _ _ | .drainMetrics | .drainCommands | .setEnabled _
  | .isEnabled | .addWebapp _ | .reset => true
  | _ => false

def setsStatic : Op → Bool
  | .setLicense _ | .setServer _ | .setStatic _ => true
  | _ => false

/-- The same on the parts themselves. -/
def direct (p : Parts) : Op → List Site.Op
  | .recordCommand name => [.registry p.commands (.record name)]
  | .recordMetric name v => [.registry p.metrics (.increment name v)]
  | .drainMetrics => [.registry p.metrics .drainAll]
  | .drainCommands => [.registry p.commands .drainAll]
  | .setEnabled v => [.facts p.facts (.setEnabled v)]
  | .isEnabled => [.facts p.facts .isEnabled]
  | .addWebapp name => [.facts p.facts (.addWebapp name)]
  | .reset => [.registry p.commands .clear, .registry p.metrics .clear,
      .facts p.facts .clearWebapps]
  | _ => []

end Op
end Service

namespace Site

/-- The site with one more service, over the parts whose numbers are given. -/
def addService (site : Site) (static : StaticData) (commands metrics facts : Option Nat) : Site :=
  let (h, s) := site.hub.makeService static commands metrics facts
  ⟨h, site.services ++ [s]⟩

/-- The service with the number is over the parts. -/
def Shares (site : Site) (p : Parts) (k : Nat) : Prop :=
  (site.services[k]?).map Service.parts = some p

/-- What an answer tells, whoever gave it. -/
def Answer.told : Answer → Service.Answer
  | .registry _ a => .ofRegistry a
  | .facts (.flag b) => .flag b
  | .service a => a
  | _ => .nothing

/-- What the last of some operations tells. -/
def lastTold (ops : List Op) (site : Site) : Service.Answer :=
  (((trace ops site).map Performed.answer).getLast?.map Answer.told).getD .nothing

end Site

/-! ## Deeds -/

/-- A way to the parts: through a service, or none. -/
inductive Door where
  | service (k : Nat)
  | direct

/-- What can be done: something on the parts through one of the doors, any other operation on the
site, or the making of a service. -/
inductive Deed where
  | shared (door : Door) (op : Service.Op)
  | other (op : Site.Op)
  | make (static : StaticData) (commands metrics facts : Option Nat)

structure Deed.Done where
  deed : Deed
  answer : Option Site.Answer
  after : Site

namespace Deed

/-- The same deed without a service between. -/
def directly : Deed → Deed
  | .shared _ op => .shared .direct op
  | d => d

/-- The door of a deed, if it has one, leads to the parts. -/
def Open (p : Parts) (site : Site) : Deed → Prop
  | .shared (.service k) op => op.isShared = true ∧ site.Shares p k
  | .shared .direct op => op.isShared = true
  | _ => True

def perform (p : Parts) (d : Deed) (site : Site) : Done :=
  match d with
  | .shared (.service k) op =>
    let e := site.step (.service k op)
    ⟨d, some (.service e.answer.told), e.after⟩
  | .shared .direct op => ⟨d, some (.service (site.lastTold (op.direct p))), site.run (op.direct p)⟩
  | .other op => ⟨d, some (site.step op).answer, (site.step op).after⟩
  | .make static commands metrics facts => ⟨d, none, site.addService static commands metrics facts⟩

def trace (p : Parts) : List Deed → Site → List Done
  | [], _ => []
  | d :: ds, site => d.perform p site :: trace p ds (d.perform p site).after

def after (p : Parts) : List Deed → Site → Site
  | [], site => site
  | d :: ds, site => after p ds (d.perform p site).after

/-- Every door is open when its turn comes. -/
def AllOpen (p : Parts) : List Deed → Site → Prop
  | [], _ => True
  | d :: ds, site => d.Open p site ∧ AllOpen p ds (d.perform p site).after

/-- What is known of a deed when it is done. -/
def Done.result (e : Done) : Option Site.Answer × Site :=
  (e.answer, e.after)

end Deed

/-! ## Doors stay open -/

theorem Service.parts_step (op : Op) (h : Hub) (s : Service) :
    (step op h s).service.parts = s.parts := by
  rw [step_service]
  rfl

namespace Site
variable {site : Site} {p : Parts} {k : Nat}

theorem shares_iff : site.Shares p k ↔ (site.services.map Service.parts)[k]? = some p := by
  rw [Shares, List.getElem?_map]

/-- No operation gives a service other parts. -/
theorem parts_step (op : Op) (site : Site) :
    (step op site).after.services.map Service.parts = site.services.map Service.parts := by
  cases op with
  | service j sop =>
    rw [step]
    cases hj : site.services[j]? with
    | none => rfl
    | some s =>
      have hparts : (site.services.map Service.parts)[j]? = some s.parts := by
        rw [List.getElem?_map, hj]
        rfl
      change (site.services.set j (Service.step sop site.hub s).service).map Service.parts = _
      rw [List.map_set, Service.parts_step, set_of_getElem? hparts]
  | _ => rfl

theorem parts_run (ops : List Op) (site : Site) :
    (run ops site).services.map Service.parts = site.services.map Service.parts := by
  induction ops generalizing site with
  | nil => rfl
  | cons op ops ih => exact (ih (step op site).after).trans (parts_step op site)

/-- A service over supplied parts is one more way to them, and nothing happens to them. -/
theorem addService_supplied (site : Site) (p : Parts) (static : StaticData) :
    site.addService static (some p.commands) (some p.metrics) (some p.facts) =
      ⟨site.hub, site.services ++ [⟨static, p.commands, p.metrics, p.facts⟩]⟩ :=
  rfl

theorem services_addService (site : Site) (static : StaticData)
    (commands metrics facts : Option Nat) :
    ∃ s, (site.addService static commands metrics facts).services = site.services ++ [s] :=
  ⟨_, rfl⟩

end Site

theorem Deed.prefix_parts (p : Parts) (d : Deed) (site : Site) :
    site.services.map Service.parts <+: (d.perform p site).after.services.map Service.parts := by
  cases d with
  | shared door op =>
    cases door with
    | service k => exact ⟨[], (List.append_nil _).trans (Site.parts_step _ site).symm⟩
    | direct => exact ⟨[], (List.append_nil _).trans (Site.parts_run _ site).symm⟩
  | other op => exact ⟨[], (List.append_nil _).trans (Site.parts_step op site).symm⟩
  | make static commands metrics facts =>
    obtain ⟨s, hs⟩ := site.services_addService static commands metrics facts
    change _ <+: (site.addService static commands metrics facts).services.map Service.parts
    rw [hs, List.map_append]
    exact List.prefix_append _ _

theorem Deed.shares_after {p : Parts} {site : Site} {k : Nat} (hk : site.Shares p k)
    (deeds : List Deed) : (after p deeds site).Shares p k := by
  induction deeds generalizing site with
  | nil => exact hk
  | cons d deeds ih =>
    refine ih ?_
    obtain ⟨added, hadded⟩ := d.prefix_parts p site
    rw [Site.shares_iff] at hk ⊢
    rw [← hadded, List.getElem?_append_left (List.getElem?_eq_some_iff.1 hk).1, hk]

/-! ## Every door is the same -/

theorem Service.step_of_isShared {op : Op} (ho : op.isShared = true) (h : Hub) (s : Service) :
    (step op h s).service = s := by
  rw [step_service]
  cases op with
  | setLicense _ | setServer _ | setStatic _ | report => simp [Op.isShared] at ho
  | _ => rfl

theorem Site.step_of_shares {site : Site} {p : Parts} {k : Nat} (hk : site.Shares p k)
    {op : Service.Op} (ho : op.isShared = true) :
    (step (.service k op) site).answer.told = lastTold (op.direct p) site ∧
      (step (.service k op) site).after = run (op.direct p) site := by
  obtain ⟨s, hs, rfl⟩ := Option.map_eq_some_iff.1 hk
  have hafter : (step (.service k op) site).after =
      ⟨(Service.step op site.hub s).hub, site.services⟩ := by
    simp only [step, hs, Service.step_of_isShared ho, set_of_getElem? hs]
  have hanswer : (step (.service k op) site).answer.told = (Service.step op site.hub s).answer := by
    simp only [step, hs, Answer.told]
  rw [hafter, hanswer]
  cases op with
  | setLicense _ | setServer _ | setStatic _ | report => simp [Service.Op.isShared] at ho
  | isEnabled =>
    refine ⟨rfl, ?_⟩
    change _ = Site.mk (site.hub.setFacts s.facts (site.hub.factsAt s.facts)) site.services
    rw [Hub.setFacts_factsAt]
    rfl
  | _ => exact ⟨rfl, rfl⟩

theorem Deed.perform_directly {p : Parts} {d : Deed} {site : Site} (ho : d.Open p site) :
    (d.perform p site).result = (d.directly.perform p site).result := by
  cases d with
  | shared door op =>
    cases door with
    | service k =>
      obtain ⟨hop, hk⟩ := ho
      obtain ⟨htold, hafter⟩ := Site.step_of_shares hk hop
      simp only [perform, directly, Done.result, htold, hafter]
    | direct => rfl
  | other _ | make _ _ _ _ => rfl

theorem Deed.trace_directly {p : Parts} {deeds : List Deed} {site : Site}
    (ho : AllOpen p deeds site) :
    (trace p deeds site).map Done.result =
      (trace p (deeds.map directly) site).map Done.result := by
  induction deeds generalizing site with
  | nil => rfl
  | cons d deeds ih =>
    obtain ⟨hd, hdeeds⟩ := ho
    have hresult := perform_directly hd
    have hafter : (d.perform p site).after = (d.directly.perform p site).after :=
      congrArg Prod.snd hresult
    rw [List.map_cons, trace, trace, List.map_cons, List.map_cons, hresult, ih hdeeds, hafter]

end UsageMeter
