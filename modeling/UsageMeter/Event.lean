import UsageMeter.Facts
import UsageMeter.Registry.Basic

/-!
Events that the library reports to its log: what happened, how important it is, which part reports
it and in what words.
-/
namespace UsageMeter

/-- Something worth a line in the log. -/
inductive Event where
  | registered (kind name : String)
  | cleared (kind : String)
  | switched (enabled : Bool)
  | staticReplaced (installation : Value)
  | reset

namespace Event

def level : Event → String
  | .registered _ _ => "DEBUG"
  | .cleared _ => "DEBUG"
  | .switched _ => "INFO"
  | .staticReplaced _ => "INFO"
  | .reset => "INFO"

def logger : Event → String
  | .registered _ _ => "engine_telemetry.telemetry.metrics"
  | .cleared _ => "engine_telemetry.telemetry.metrics"
  | .switched _ => "engine_telemetry.telemetry.state"
  | .staticReplaced _ => "engine_telemetry.telemetry.assembler"
  | .reset => "engine_telemetry.service"

def message : Event → String
  | .registered kind name => "Registered " ++ kind ++ " counter " ++ Text.quoted name
  | .cleared kind => "Cleared " ++ kind ++ " counter registry"
  | .switched enabled => "Telemetry " ++ (if enabled then "enabled" else "disabled")
  | .staticReplaced installation =>
    "Replaced static telemetry data for installation " ++ installation.shown
  | .reset => "Telemetry registries reset"

end Event

/-- Registering a name is an event when it makes a counter. -/
def Registry.registering (r : Registry) (name : String) : List Event :=
  if r.contains name then [] else [.registered r.kind name]

/-- Setting the switch is an event when it moves. -/
def Facts.switching (f : Facts) (v : Value) : List Event :=
  if f.enabled = v.truth then [] else [.switched v.truth]

end UsageMeter
