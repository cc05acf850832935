import UsageMeter.Service.Basic

/-!
Services over supplied parts. A registry that is supplied is used as it is, whether or not anything
was counted in it; what is not supplied is made new.
-/
namespace UsageMeter.Hub

def suppliedRegistry (h : Hub) (supplied : Option Nat) (new : Registry) : Hub × Nat :=
  match supplied with
  | some i => (h, i)
  | none => h.addRegistry new

def suppliedFacts (h : Hub) (supplied : Option Nat) : Hub × Nat :=
  match supplied with
  | some i => (h, i)
  | none => h.addFacts .initial

/-- A service over the parts whose numbers are given. -/
def makeService (h : Hub) (static : StaticData) (commands metrics facts : Option Nat) :
    Hub × Service :=
  let (h, c) := h.suppliedRegistry commands .emptyTracker
  let (h, m) := h.suppliedRegistry metrics (.empty Registry.metricKind)
  let (h, f) := h.suppliedFacts facts
  (h, ⟨static, c, m, f⟩)

end UsageMeter.Hub
