import UsageMeter.Hub
import UsageMeter.Service.Static

/-!
Services: the one place where an engine records and reports its use. A service holds static data of
its own and shares registries and facts with whoever knows their numbers.
-/
namespace UsageMeter

/-- Static data, and the numbers of two registries and of the facts. -/
structure Service where
  static : StaticData
  commands : Nat
  metrics : Nat
  facts : Nat

namespace Service

/-- An operation on a service. -/
inductive Op where
  | recordCommand (name : String)
  | recordMetric (name : String) (v : Value)
  | drainMetrics
  | drainCommands
  | setEnabled (v : Value)
  | isEnabled
  | addWebapp (name : String)
  | setLicense (license : Option License)
  | setServer (server : Option Component)
  | setStatic (static : StaticData)
  | reset
  | report

/-- What an operation gives back. -/
inductive Answer where
  | nothing
  | flag (b : Bool)
  | counts (t : Table Nat)
  | report (r : Report)
  | rejected (e : IncrementError)
  | refused (e : NotTracker)
  | unidentified (e : IdentityError)

/-- The answer of a registry as the service passes it on. -/
def Answer.ofRegistry : Registry.Answer → Answer
  | .counts t => .counts t
  | .rejected e => .rejected e
  | .refused e => .refused e
  | _ => .nothing

/-- Hub, service, answer and events after an operation. -/
structure Outcome where
  hub : Hub
  service : Service
  answer : Answer
  events : List Event

def withStatic (s : Service) (d : StaticData) : Service :=
  ⟨d, s.commands, s.metrics, s.facts⟩

/-- The service after an operation on one of its registries. -/
def onRegistry (s : Service) (h : Hub) (i : Nat) (op : Registry.Op) : Outcome :=
  let (h', answer, events) := h.stepRegistry i op
  ⟨h', s, .ofRegistry answer, events⟩

def reportNow (s : Service) (h : Hub) : Except IdentityError Report :=
  s.static.report (h.registry s.commands).snapshot (h.registry s.metrics).snapshot
    (h.factsAt s.facts)

def resetAll (s : Service) (h : Hub) : Outcome :=
  let (h, _, cleared) := h.stepRegistry s.commands .clear
  let (h, _, cleared') := h.stepRegistry s.metrics .clear
  ⟨h.setFacts s.facts (h.factsAt s.facts).clearWebapps, s, .nothing,
    cleared ++ cleared' ++ [.reset]⟩

def step (op : Op) (h : Hub) (s : Service) : Outcome :=
  match op with
  | .recordCommand name => s.onRegistry h s.commands (.record name)
  | .recordMetric name v => s.onRegistry h s.metrics (.increment name v)
  | .drainMetrics => s.onRegistry h s.metrics .drainAll
  | .drainCommands => s.onRegistry h s.commands .drainAll
  | .setEnabled v =>
    let f := h.factsAt s.facts
    ⟨h.setFacts s.facts (f.setEnabled v), s, .nothing, f.switching v⟩
  | .isEnabled => ⟨h, s, .flag (h.factsAt s.facts).enabled, []⟩
  | .addWebapp name =>
    ⟨h.setFacts s.facts ((h.factsAt s.facts).addWebapp name), s, .nothing, []⟩
  | .setLicense license => ⟨h, s.withStatic (s.static.withLicense license), .nothing, []⟩
  | .setServer server => ⟨h, s.withStatic (s.static.withServer server), .nothing, []⟩
  | .setStatic d => ⟨h, s.withStatic d, .nothing, [.staticReplaced d.installation]⟩
  | .reset => s.resetAll h
  | .report =>
    match s.reportNow h with
    | .ok r => ⟨h, s, .report r, []⟩
    | .error e => ⟨h, s, .unidentified e, []⟩

/-- Hub and service after a list of operations. -/
def run : List Op → Hub → Service → Hub × Service
  | [], h, s => (h, s)
  | op :: ops, h, s => run ops (step op h s).hub (step op h s).service

/-- The answers of a list of operations, in order. -/
def answers : List Op → Hub → Service → List Answer
  | [], _, _ => []
  | op :: ops, h, s => (step op h s).answer :: answers ops (step op h s).hub (step op h s).service

theorem run_append (u v : List Op) (h : Hub) (s : Service) :
    run (u ++ v) h s = run v (run u h s).1 (run u h s).2 := by
  induction u generalizing h s with
  | nil => rfl
  | cons op ops ih => exact ih (step op h s).hub (step op h s).service

end Service
end UsageMeter
