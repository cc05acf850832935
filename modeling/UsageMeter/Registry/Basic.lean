import UsageMeter.Registry.Counter
import UsageMeter.Table

/-!
Registries of counters. A registry keeps every counter that it ever made, oldest first, and a list
of entries that name the live ones in order of registration. Clearing drops the entries and keeps
the counters, so a counter taken from a registry before a clear goes on counting for its holder
and for nobody else.
-/
namespace UsageMeter

/-- Counters under names; an entry points at a counter by its place among all counters made. A
tracker is a registry that counts executed commands. -/
structure Registry where
  kind : String
  tracker : Bool
  counters : List Counter
  entries : List (String × Nat)
deriving DecidableEq

/-- A registry that is no tracker was to count a command. -/
structure NotTracker where
deriving DecidableEq

def NotTracker.message (_ : NotTracker) : String :=
  "'CounterRegistry' object has no attribute 'record_command_executed'"

namespace Registry

/-- What registries of command counters are called. -/
def commandKind : String := "command"

/-- What registries of business metrics are called. -/
def metricKind : String := "metric"

/-- A registry without counters that is no tracker. -/
def empty (kind : String) : Registry :=
  ⟨kind, false, [], []⟩

def emptyTracker : Registry :=
  ⟨commandKind, true, [], []⟩

def find? (r : Registry) (name : String) : Option Nat :=
  r.entries.lookup name

/-- Whether a live counter has the name. -/
def contains (r : Registry) (name : String) : Bool :=
  (r.find? name).isSome

/-- Makes a counter for a name that has none. -/
def register (r : Registry) (name : String) : Registry × Nat :=
  match r.find? name with
  | some i => (r, i)
  | none =>
    (⟨r.kind, r.tracker, r.counters ++ [Counter.fresh name],
      r.entries ++ [(name, r.counters.length)]⟩, r.counters.length)

/-- The value of a counter, live or not. -/
def valueAt (r : Registry) (i : Nat) : Nat :=
  match r.counters[i]? with
  | some c => c.value
  | none => 0

/-- Changes one counter, live or not. -/
def modifyAt (r : Registry) (i : Nat) (f : Counter → Counter) : Registry :=
  ⟨r.kind, r.tracker, r.counters.modify i f, r.entries⟩

/-- Increments a counter, live or not. -/
def incrementAt (r : Registry) (i : Nat) (v : Value) : Registry × Except IncrementError Unit :=
  match increment? v with
  | .ok n => (r.modifyAt i (Counter.add n), .ok ())
  | .error e => (r, .error e)

/-- Reads a counter and sets it to zero, live or not. -/
def drainAt (r : Registry) (i : Nat) : Registry × Nat :=
  (r.modifyAt i Counter.drained, r.valueAt i)

/-- Increments by name. The name is registered first, even if the increment is then rejected. -/
def increment (r : Registry) (name : String) (v : Value) :
    Registry × Except IncrementError Unit :=
  let (r, i) := r.register name
  r.incrementAt i v

/-- Counts one executed command under its name; a registry that is no tracker refuses. -/
def record (r : Registry) (name : String) : Registry × Except NotTracker Unit :=
  if r.tracker then ((r.increment name (.int 1)).1, .ok ()) else (r, .error ⟨⟩)

/-- The value under a name, zero if there is none. -/
def get (r : Registry) (name : String) : Nat :=
  match r.find? name with
  | some i => r.valueAt i
  | none => 0

/-- Reads the value under a name and sets it to zero; an unknown name is not registered. -/
def drain (r : Registry) (name : String) : Registry × Nat :=
  match r.find? name with
  | some i => r.drainAt i
  | none => (r, 0)

/-- The live counters in order of registration. -/
def live (r : Registry) : List Counter :=
  r.entries.filterMap fun e => r.counters[e.2]?

/-- Names and values of the live counters in order of registration. -/
def pairs (r : Registry) : List (String × Nat) :=
  r.live.map fun c => (c.name, c.value)

def snapshot (r : Registry) : Table Nat :=
  Table.ofList r.pairs

/-- Drains the counters of some entries one after the other. -/
def drainEntries : List (String × Nat) → Registry → Registry × List (String × Nat)
  | [], r => (r, [])
  | (_, i) :: es, r =>
    match r.counters[i]? with
    | some c =>
      let (r', read) := drainEntries es (r.modifyAt i Counter.drained)
      (r', (c.name, c.value) :: read)
    | none => drainEntries es r

/-- Drains every live counter in order of registration. -/
def drainAll (r : Registry) : Registry × Table Nat :=
  let (r', read) := drainEntries r.entries r
  (r', Table.ofList read)

def clear (r : Registry) : Registry :=
  ⟨r.kind, r.tracker, r.counters, []⟩

/-- The names of the live counters in order of registration. -/
def names (r : Registry) : List String :=
  r.live.map Counter.name

def size (r : Registry) : Nat :=
  r.entries.length

end Registry

/-- The business metrics that an engine reports by default. -/
def businessMetrics : List String :=
  ["rootProcessInstanceStart", "activityInstanceStart", "executedDecisionInstances",
    "executedDecisionElements"]

end UsageMeter
