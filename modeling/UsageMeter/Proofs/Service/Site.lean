import UsageMeter.Export.Observations
import UsageMeter.Proofs.Hub
import UsageMeter.Proofs.Registry.Reach
import UsageMeter.Proofs.Service.Parts

/-!
Sites: registries and facts with the services and exporters over them. Whoever has a part of a site
operates on it directly, through a service or by an exporter, in any order.
-/
namespace UsageMeter

namespace Facts

inductive Op where
  | setEnabled (v : Value)
  | addWebapp (name : String)
  | clearWebapps
  | isEnabled
  | webapps
  | snapshot

inductive Answer where
  | nothing
  | flag (b : Bool)
  | webapps (w : Webapps)
  | facts (f : Facts)

def step (op : Op) (f : Facts) : Facts × Answer :=
  match op with
  | .setEnabled v => (f.setEnabled v, .nothing)
  | .addWebapp name => (f.addWebapp name, .nothing)
  | .clearWebapps => (f.clearWebapps, .nothing)
  | .isEnabled => (f, .flag f.enabled)
  | .webapps => (f, .webapps f.webapps)
  | .snapshot => (f, .facts f)

def events (op : Op) (f : Facts) : List Event :=
  match op with
  | .setEnabled v => f.switching v
  | _ => []

end Facts

structure Site where
  hub : Hub
  services : List Service

namespace Site

/-- An operation on the part with a number, or by an exporter. -/
inductive Op where
  | registry (i : Nat) (op : Registry.Op)
  | facts (i : Nat) (op : Facts.Op)
  | service (k : Nat) (op : Service.Op)
  | collect (c : Export.Collector)
  | observe (i : Export.Instrument)

/-- What an operation gives back; a registry's answer may refer to one of its counters. -/
inductive Answer where
  | registry (i : Nat) (a : Registry.Answer)
  | facts (a : Facts.Answer)
  | service (a : Service.Answer)
  | families (fs : List Export.Family)
  | points (ps : List Export.Point)
  | missing

/-- An operation with its answer, its events and the site after it. -/
structure Performed where
  op : Op
  answer : Answer
  events : List Event
  after : Site

def step (op : Op) (site : Site) : Performed :=
  match op with
  | .registry i rop =>
    let (hub, answer, events) := site.hub.stepRegistry i rop
    ⟨op, .registry i answer, events, ⟨hub, site.services⟩⟩
  | .facts i fop =>
    let f := site.hub.factsAt i
    ⟨op, .facts (Facts.step fop f).2, Facts.events fop f,
      ⟨site.hub.setFacts i (Facts.step fop f).1, site.services⟩⟩
  | .service k sop =>
    match site.services[k]? with
    | none => ⟨op, .missing, [], site⟩
    | some s =>
      let out := Service.step sop site.hub s
      ⟨op, .service out.answer, out.events, ⟨out.hub, site.services.set k out.service⟩⟩
  | .collect c => ⟨op, .families (c.collect site.hub), [], site⟩
  | .observe i => ⟨op, .points (i.observe site.hub), [], site⟩

def run : List Op → Site → Site
  | [], site => site
  | op :: ops, site => run ops (step op site).after

/-- All that was performed in a run, in order. -/
def trace : List Op → Site → List Performed
  | [], _ => []
  | op :: ops, site => step op site :: trace ops (step op site).after

theorem step_op (op : Op) (site : Site) : (step op site).op = op := by
  cases op with
  | service k sop =>
    rw [step]
    cases site.services[k]? <;> rfl
  | _ => rfl

theorem run_append (u v : List Op) (site : Site) : run (u ++ v) site = run v (run u site) := by
  induction u generalizing site with
  | nil => rfl
  | cons op ops ih => exact ih (step op site).after

theorem trace_append (u v : List Op) (site : Site) :
    trace (u ++ v) site = trace u site ++ trace v (run u site) := by
  induction u generalizing site with
  | nil => rfl
  | cons op ops ih => exact congrArg (step op site :: ·) (ih (step op site).after)

end Site

/-! ## Reachable registries -/

namespace Hub

/-- Every registry is one that a new registry can become. -/
def AllReachable (h : Hub) : Prop :=
  ∀ i, (h.registry i).Reachable

variable {h : Hub}

theorem AllReachable.setRegistry (hr : h.AllReachable) {r : Registry} (hn : r.Reachable)
    (i : Nat) : (h.setRegistry i r).AllReachable := by
  intro j
  by_cases hij : i = j
  · subst hij
    by_cases hi : i < h.registries.length
    · rwa [registry_setRegistry_self h hi]
    · have hset : h.setRegistry i r = h := by
        rw [Hub.setRegistry, List.set_eq_of_length_le (Nat.le_of_not_lt hi)]
      rw [hset]
      exact hr i
  · rw [registry_setRegistry_of_ne h hij]
    exact hr j

theorem AllReachable.stepRegistry (hr : h.AllReachable) (i : Nat) (op : Registry.Op) :
    (h.stepRegistry i op).1.AllReachable :=
  hr.setRegistry ((hr i).step op) i

theorem AllReachable.service (hr : h.AllReachable) (op : Service.Op) (s : Service) :
    (Service.step op h s).hub.AllReachable := by
  cases op with
  | recordCommand name => exact hr.stepRegistry s.commands (.record name)
  | recordMetric name v => exact hr.stepRegistry s.metrics (.increment name v)
  | drainMetrics => exact hr.stepRegistry s.metrics .drainAll
  | drainCommands => exact hr.stepRegistry s.commands .drainAll
  | reset => exact (hr.stepRegistry s.commands .clear).stepRegistry s.metrics .clear
  | report =>
    rw [(Service.step_report h s).1]
    exact hr
  | _ => exact hr

end Hub

namespace Site

theorem allReachable_step {site : Site} (h : site.hub.AllReachable) (op : Op) :
    (step op site).after.hub.AllReachable := by
  cases op with
  | registry i rop => exact h.stepRegistry i rop
  | service k sop =>
    rw [step]
    cases site.services[k]? with
    | none => exact h
    | some s => exact h.service sop s
  | facts _ _ | collect _ | observe _ => exact h

theorem allReachable_run {site : Site} (h : site.hub.AllReachable) (ops : List Op) :
    (run ops site).hub.AllReachable := by
  induction ops generalizing site with
  | nil => exact h
  | cons op ops ih => exact ih (allReachable_step h op)

end Site
end UsageMeter
