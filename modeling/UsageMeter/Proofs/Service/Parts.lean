import UsageMeter.Proofs.Hub
import UsageMeter.Proofs.Registry.Reach
import UsageMeter.Service.Basic

/-!
The parts of a service. A service over two registries runs each of them, the facts and its static
data separately: each part sees the operations that are for it, in order, and no others.
-/
namespace UsageMeter.Service

/-- The service's registries are two, and all its numbers are in use. -/
structure Placed (s : Service) (h : Hub) : Prop where
  apart : s.commands ≠ s.metrics
  commands : s.commands < h.registries.length
  metrics : s.metrics < h.registries.length
  facts : s.facts < h.facts.length

namespace Op

/-- What an operation asks of the command registry. -/
def forCommands? : Op → Option Registry.Op
  | .recordCommand name => some (.record name)
  | .drainCommands => some .drainAll
  | .reset => some .clear
  | _ => none

/-- What an operation asks of the metric registry. -/
def forMetrics? : Op → Option Registry.Op
  | .recordMetric name v => some (.increment name v)
  | .drainMetrics => some .drainAll
  | .reset => some .clear
  | _ => none

/-- What an operation does to the facts. -/
def onFacts (f : Facts) : Op → Facts
  | .setEnabled v => f.setEnabled v
  | .addWebapp name => f.addWebapp name
  | .reset => f.clearWebapps
  | _ => f

/-- What an operation does to the static data. -/
def onStatic (d : StaticData) : Op → StaticData
  | .setLicense license => d.withLicense license
  | .setServer server => d.withServer server
  | .setStatic d' => d'
  | _ => d

end Op

/-! ## One operation -/

theorem step_service (op : Op) (h : Hub) (s : Service) :
    (step op h s).service = s.withStatic (op.onStatic s.static) := by
  cases op with
  | report =>
    rw [step]
    cases s.reportNow h <;> rfl
  | _ => rfl

/-- A report changes nothing. -/
theorem step_report (h : Hub) (s : Service) :
    (step .report h s).hub = h ∧ (step .report h s).service = s := by
  rw [step]
  cases s.reportNow h <;> exact ⟨rfl, rfl⟩

variable {s : Service} {h : Hub}

theorem Placed.withStatic (hp : s.Placed h) (d : StaticData) : (s.withStatic d).Placed h :=
  ⟨hp.apart, hp.commands, hp.metrics, hp.facts⟩

theorem length_registries_step (op : Op) (h : Hub) (s : Service) :
    (step op h s).hub.registries.length = h.registries.length := by
  cases op with
  | recordCommand _ | recordMetric _ _ | drainMetrics | drainCommands =>
    exact Hub.length_setRegistry h _ _
  | reset =>
    exact (Hub.length_setRegistry _ _ _).trans (Hub.length_setRegistry h _ _)
  | report => rw [(step_report h s).1]
  | _ => rfl

theorem length_facts_step (op : Op) (h : Hub) (s : Service) :
    (step op h s).hub.facts.length = h.facts.length := by
  cases op with
  | setEnabled _ | addWebapp _ | reset => exact Hub.length_setFacts _ _ _
  | report => rw [(step_report h s).1]
  | _ => rfl

theorem Placed.step (hp : s.Placed h) (op : Op) :
    (Service.step op h s).service.Placed (Service.step op h s).hub := by
  rw [step_service]
  refine Placed.withStatic ⟨hp.apart, ?_, ?_, ?_⟩ _
  · rw [length_registries_step]
    exact hp.commands
  · rw [length_registries_step]
    exact hp.metrics
  · rw [length_facts_step]
    exact hp.facts

theorem registry_commands_step (hp : s.Placed h) (op : Op) :
    (step op h s).hub.registry s.commands =
      Registry.run op.forCommands?.toList (h.registry s.commands) := by
  cases op with
  | recordCommand _ | drainCommands =>
    exact Hub.registry_setRegistry_self h hp.commands _
  | recordMetric _ _ | drainMetrics =>
    exact Hub.registry_setRegistry_of_ne h (Ne.symm hp.apart) _
  | reset =>
    exact (Hub.registry_setRegistry_of_ne _ (Ne.symm hp.apart) _).trans
      (Hub.registry_setRegistry_self h hp.commands _)
  | report =>
    rw [(step_report h s).1]
    rfl
  | _ => rfl

theorem registry_metrics_step (hp : s.Placed h) (op : Op) :
    (step op h s).hub.registry s.metrics =
      Registry.run op.forMetrics?.toList (h.registry s.metrics) := by
  cases op with
  | recordMetric _ _ | drainMetrics =>
    exact Hub.registry_setRegistry_self h hp.metrics _
  | recordCommand _ | drainCommands =>
    exact Hub.registry_setRegistry_of_ne h hp.apart _
  | reset =>
    have hm : s.metrics < (h.setRegistry s.commands (h.registry s.commands).clear).registries.length
        := by
      rw [Hub.length_setRegistry]
      exact hp.metrics
    have hr := Hub.registry_setRegistry_of_ne h hp.apart (h.registry s.commands).clear
    refine (Hub.registry_setRegistry_self _ hm _).trans ?_
    exact congrArg Registry.clear hr
  | report =>
    rw [(step_report h s).1]
    rfl
  | _ => rfl

theorem factsAt_step (hp : s.Placed h) (op : Op) :
    (step op h s).hub.factsAt s.facts = op.onFacts (h.factsAt s.facts) := by
  cases op with
  | setEnabled _ | addWebapp _ | reset => exact Hub.factsAt_setFacts_self _ hp.facts _
  | report =>
    rw [(step_report h s).1]
    rfl
  | _ => rfl

/-! ## A run -/

theorem run_concat (ops : List Op) (op : Op) (h : Hub) (s : Service) :
    run (ops ++ [op]) h s =
      ((step op (run ops h s).1 (run ops h s).2).hub,
        (step op (run ops h s).1 (run ops h s).2).service) := by
  rw [run_append]
  rfl

theorem Placed.run (hp : s.Placed h) (ops : List Op) :
    (Service.run ops h s).2.Placed (Service.run ops h s).1 := by
  induction ops generalizing h s with
  | nil => exact hp
  | cons op ops ih => exact ih (hp.step op)

theorem run_service (ops : List Op) (h : Hub) (s : Service) :
    (run ops h s).2 = s.withStatic (ops.foldl Op.onStatic s.static) := by
  induction ops generalizing h s with
  | nil => rfl
  | cons op ops ih =>
    rw [run, ih, step_service]
    rfl

theorem registry_commands_run (hp : s.Placed h) (ops : List Op) :
    (run ops h s).1.registry s.commands =
      Registry.run (ops.filterMap Op.forCommands?) (h.registry s.commands) := by
  induction ops using List.reverseRecOn with
  | nil => rfl
  | append_singleton ops op ih =>
    have hc : (run ops h s).2.commands = s.commands := by rw [run_service]; rfl
    have hs := registry_commands_step (hp.run ops) op
    rw [hc, ih] at hs
    rw [run_concat, hs, List.filterMap_append, Registry.run_append]
    cases op <;> rfl

theorem registry_metrics_run (hp : s.Placed h) (ops : List Op) :
    (run ops h s).1.registry s.metrics =
      Registry.run (ops.filterMap Op.forMetrics?) (h.registry s.metrics) := by
  induction ops using List.reverseRecOn with
  | nil => rfl
  | append_singleton ops op ih =>
    have hc : (run ops h s).2.metrics = s.metrics := by rw [run_service]; rfl
    have hs := registry_metrics_step (hp.run ops) op
    rw [hc, ih] at hs
    rw [run_concat, hs, List.filterMap_append, Registry.run_append]
    cases op <;> rfl

theorem factsAt_run (hp : s.Placed h) (ops : List Op) :
    (run ops h s).1.factsAt s.facts = ops.foldl Op.onFacts (h.factsAt s.facts) := by
  induction ops using List.reverseRecOn with
  | nil => rfl
  | append_singleton ops op ih =>
    have hc : (run ops h s).2.facts = s.facts := by rw [run_service]; rfl
    have hs := factsAt_step (hp.run ops) op
    rw [hc, ih] at hs
    rw [run_concat, hs, List.foldl_append]
    rfl

end UsageMeter.Service
