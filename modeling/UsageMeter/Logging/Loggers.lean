import UsageMeter.Table

/-!
Loggers. They form a tree: each logger is below the nearest logger whose name continues to its own
with a dot, or else below the root. A logger comes into being when it is first asked for, and takes
over the loggers that belong below it.
-/
namespace UsageMeter.Logging

def levelUnset : Int := 0

/-- A logger: its level, whether records go on to the loggers above, the setups whose handlers it
carries, the logger above it unless that is the root, and whether a program listens on it with a
handler of its own, which reads the message of each record that comes by and keeps nothing. -/
structure Logger where
  level : Int
  propagate : Bool
  handlers : List Nat
  parent : Option String
  listened : Bool
deriving DecidableEq

/-- A logger that nobody has configured. -/
def Logger.initial (parent : Option String) : Logger :=
  ⟨levelUnset, true, [], parent, false⟩

/-- The name of the logger above all others. -/
def rootName : String := "root"

/-- The name under which a logger is known. -/
def canonical (name : String) : String :=
  if name = "" then rootName else name

/-- The beginnings of a dotted name that can be names above it, nearest first, given its characters
from the last to the first. The character before a dot is never a dot that ends a name itself. -/
def dottedBeginnings : List Char → List (List Char)
  | [] => []
  | '.' :: c :: cs => (c :: cs).reverse :: dottedBeginnings cs
  | _ :: cs => dottedBeginnings cs

/-- The names above a dotted name, nearest first; the root is above all names and not among them. -/
def namesAbove (name : String) : List String :=
  ((dottedBeginnings name.toList.reverse).map String.ofList).filter (· ≠ rootName)

abbrev Loggers := Table Logger

namespace Loggers

def find (t : Loggers) (name : String) : Logger :=
  (t.get? (canonical name)).getD (Logger.initial none)

def put (t : Loggers) (name : String) (l : Logger) : Loggers :=
  t.insert (canonical name) l

/-- Puts a logger that was below a new one under it. One whose parent's name starts like the new
name is below it already. -/
def adopt (new : String) (name : String) (l : Logger) : Logger :=
  if (namesAbove name).contains new &&
      !new.toList.isPrefixOf (l.parent.getD rootName).toList then
    ⟨l.level, l.propagate, l.handlers, some new, l.listened⟩
  else l

/-- Makes the logger with a name if it is not there. -/
def create (t : Loggers) (name : String) : Loggers :=
  let name := canonical name
  if t.contains name then t
  else
    (t.mapNamed (adopt name)).insert name
      (Logger.initial ((namesAbove name).find? fun above => t.contains above))

/-- A logger and those above it, nearest first, as far as the given number of steps goes. -/
def chain (t : Loggers) : Nat → String → List String
  | 0, _ => []
  | steps + 1, name =>
    match (t.find name).parent with
    | some parent => name :: t.chain steps parent
    | none => if name = rootName then [rootName] else [name, rootName]

/-- The logger with a name and those above it, nearest first; each is there at most once. -/
def lineage (t : Loggers) (name : String) : List String :=
  t.chain (t.size + 1) (canonical name)

end Loggers
end UsageMeter.Logging
