import UsageMeter.Export.Families

/-!
Observable instruments. An instrument names a registry and observes it whenever it is asked, with
the counter's name as the one label of each point.
-/
namespace UsageMeter.Export

/-- An observable counter over a registry, by number. -/
structure Instrument where
  name : String
  unit : String
  description : String
  label : String
  registry : Nat
deriving DecidableEq

/-- A value with its label. -/
structure Point where
  value : Nat
  label : String × String
deriving DecidableEq

def Instrument.observe (i : Instrument) (h : Hub) : List Point :=
  (h.registry i.registry).snapshot.toList.map fun (name, n) => ⟨n, (i.label, name)⟩

def commandInstrument (start : String) (commands : Nat) : Instrument :=
  ⟨start ++ ".command.invocations", "1", commandDocumentation, "command", commands⟩

def metricInstrument (start : String) (metrics : Nat) : Instrument :=
  ⟨start ++ ".metric.events", "1", metricDocumentation, "metric", metrics⟩

def instruments (start : String) (commands metrics : Nat) : List Instrument :=
  [commandInstrument start commands, metricInstrument start metrics]

end UsageMeter.Export
