import UsageMeter.Registry.Run

/-!
Hubs: the registries and facts of a process, addressed by number, so that several services,
exporters and interceptors can share them.
-/
namespace UsageMeter

/-- All registries and facts, in order of creation. -/
structure Hub where
  registries : List Registry
  facts : List Facts

namespace Hub

def empty : Hub :=
  ⟨[], []⟩

def registry (h : Hub) (i : Nat) : Registry :=
  h.registries.getD i (Registry.empty Registry.metricKind)

def factsAt (h : Hub) (i : Nat) : Facts :=
  h.facts.getD i Facts.initial

def addRegistry (h : Hub) (r : Registry) : Hub × Nat :=
  (⟨h.registries ++ [r], h.facts⟩, h.registries.length)

def addFacts (h : Hub) (f : Facts) : Hub × Nat :=
  (⟨h.registries, h.facts ++ [f]⟩, h.facts.length)

/-- Adds a counter that belongs to no other registry, and gives its registry and its place there. -/
def addCounter (h : Hub) (name : String) : Hub × Nat × Nat :=
  let (r, i) := (Registry.empty "").register name
  let (h, k) := h.addRegistry r
  (h, k, i)

/-- Puts a registry in the place of the one with its number. -/
def setRegistry (h : Hub) (i : Nat) (r : Registry) : Hub :=
  ⟨h.registries.set i r, h.facts⟩

/-- Puts facts in the place of those with their number. -/
def setFacts (h : Hub) (i : Nat) (f : Facts) : Hub :=
  ⟨h.registries, h.facts.set i f⟩

/-- An operation on one registry, with its answer and events. -/
def stepRegistry (h : Hub) (i : Nat) (op : Registry.Op) : Hub × Registry.Answer × List Event :=
  let r := h.registry i
  let (r', answer) := r.step op
  (h.setRegistry i r', answer, Registry.events op r)

end Hub
end UsageMeter
