import UsageMeter.NameSet
import UsageMeter.Value.Order

/-!
Sets of web applications. Web applications are known by their names, but whoever makes the set may
put other values in; those are kept apart, in their own order, and listed after the names.
-/
namespace UsageMeter

/-- A set of names, and the members that are no names. -/
structure Webapps where
  names : NameSet
  others : List Value
  nameless : ∀ v ∈ others, v.text? = none

namespace Webapps

def empty : Webapps :=
  ⟨NameSet.empty, [], by simp⟩

def ofNames (names : List String) : Webapps :=
  ⟨NameSet.ofList names, [], by simp⟩

def insert (w : Webapps) (name : String) : Webapps :=
  ⟨w.names.insert name, w.others, w.nameless⟩

def add (w : Webapps) (v : Value) : Webapps :=
  match h : v.text? with
  | some name => w.insert name
  | none =>
    ⟨w.names, v.add w.others, fun x hx =>
      (Value.mem_of_mem_add hx).elim (fun e => e ▸ h) (w.nameless x)⟩

def ofValues (vs : List Value) : Webapps :=
  vs.foldl add empty

def toValues (w : Webapps) : List Value :=
  w.names.toList.map Value.str ++ w.others

/-- The set that was listed so. -/
def ofListed (vs : List Value) : Webapps :=
  ⟨NameSet.ofList (vs.filterMap Value.text?), vs.filter fun v => v.text? = none, by simp⟩

def alike (a b : Webapps) : Bool :=
  a.names == b.names && Value.equalItems a.others b.others

end Webapps
end UsageMeter
