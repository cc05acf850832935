import UsageMeter.Value.Written
import UsageMeter.Webapps

/-!
Facts about a running engine that are not counted: the enabled web applications and whether
telemetry is switched on.
-/
namespace UsageMeter

/-- The web applications and the switch; a snapshot of the facts is the same thing. -/
structure Facts where
  webapps : Webapps
  enabled : Bool

namespace Facts

/-- No web applications, switched off. -/
def initial : Facts :=
  ⟨.empty, false⟩

/-- Sets the switch by the truth of a value. -/
def setEnabled (f : Facts) (v : Value) : Facts :=
  ⟨f.webapps, v.truth⟩

def addWebapp (f : Facts) (name : String) : Facts :=
  ⟨f.webapps.insert name, f.enabled⟩

/-- Forgets the web applications; the switch stays. -/
def clearWebapps (f : Facts) : Facts :=
  ⟨.empty, f.enabled⟩

end Facts

/-- Why a value gives no web applications. -/
inductive WebappsError where
  | notIterable (kind : String)
  | unhashable (kind : String)
deriving DecidableEq

def WebappsError.message : WebappsError → String
  | .notIterable kind => "'" ++ kind ++ "' object is not iterable"
  | .unhashable kind => unhashableMessage kind

/-- The web applications that a value lists. -/
def webappsOf (v : Value) : Except WebappsError Webapps :=
  match v.members? with
  | none => .error (.notIterable v.kind)
  | some members =>
    match members.findSome? Value.unhashable? with
    | some kind => .error (.unhashable kind)
    | none => .ok (.ofValues members)

end UsageMeter
