import UsageMeter.Hub

/-!
Metric families for scraping. A collector reads its registries when it is asked and changes nothing;
it gives the command family, the metric family and, if it watches the facts, a gauge for the switch.
-/
namespace UsageMeter.Export

/-- The types of families. -/
inductive FamilyType where
  | counter | gauge
deriving DecidableEq

def FamilyType.name : FamilyType → String
  | .counter => "counter"
  | .gauge => "gauge"

/-- One value with its labels. -/
structure Sample where
  name : String
  labels : List (String × String)
  value : Nat
deriving DecidableEq

/-- Samples of one metric. -/
structure Family where
  name : String
  type : FamilyType
  documentation : String
  samples : List Sample
deriving DecidableEq

def commandDocumentation : String := "Number of executed engine commands by command name"

def metricDocumentation : String := "Number of recorded business metric events by metric name"

def enabledDocumentation : String := "Whether usage telemetry collection is enabled"

/-- The name that the families start with unless another is given. -/
def defaultNamespace : String := "engine"

/-- A counter family; its samples carry a suffix that the family does not. -/
def counterFamily (name documentation label : String) (counts : Table Nat) : Family :=
  ⟨name, .counter, documentation,
    counts.toList.map fun (value, n) => ⟨name ++ "_total", [(label, value)], n⟩⟩

def enabledFamily (name : String) (enabled : Bool) : Family :=
  ⟨name, .gauge, enabledDocumentation, [⟨name, [], if enabled then 1 else 0⟩]⟩

/-- What a collector reads, by number, and the name that its families start with. -/
structure Collector where
  commands : Nat
  metrics : Nat
  facts : Option Nat
  familyNamespace : String
deriving DecidableEq

def Collector.collect (c : Collector) (h : Hub) : List Family :=
  counterFamily (c.familyNamespace ++ "_command_invocations") commandDocumentation "command"
      (h.registry c.commands).snapshot ::
    counterFamily (c.familyNamespace ++ "_metric_events") metricDocumentation "metric"
      (h.registry c.metrics).snapshot ::
    (c.facts.toList.map fun f =>
      enabledFamily (c.familyNamespace ++ "_telemetry_enabled") (h.factsAt f).enabled)

/-- The families of several collectors in order. -/
def collectAll (cs : List Collector) (h : Hub) : List Family :=
  cs.flatMap fun c => c.collect h

/-- Whether two lists of labels with distinct names say the same. -/
def sameLabels (a b : List (String × String)) : Bool :=
  a.length == b.length && a.all fun e => b.lookup e.1 == some e.2

/-- The value of the first sample with a name and labels. -/
def sampleValue? (families : List Family) (name : String) (labels : List (String × String)) :
    Option Nat :=
  ((families.flatMap Family.samples).find? fun s =>
    s.name == name && sameLabels s.labels labels).map Sample.value

end UsageMeter.Export
