import UsageMeter.Report.Basic

/-!
Digests of tables and reports, built from digests of their parts. Parts listed without order are
combined in a way that does not depend on the order, so that reports that are alike have one digest
whatever digests the parts have.
-/
namespace UsageMeter

/-- Digests of the parts, and how a list of digests becomes one. -/
structure Hashing where
  text : String → Nat
  number : Number → Nat
  nothing : Nat
  combine : List Nat → Nat

namespace Hashing

/-- The digest of a number by the hashes of the core library. -/
def coreNumber : Number → Nat
  | .exact m e => (mixHash (hash m) (hash e)).toNat
  | .infinite b => (hash b).toNat
  | .nan => 7

/-- Digests by the hashes of the core library. -/
def core : Hashing :=
  ⟨fun s => (hash s).toNat, coreNumber, 3, fun ns => (hash ns).toNat⟩

variable (h : Hashing)

/-- The digest of a truth value, which counts as a number. -/
def bool (b : Bool) : Nat :=
  h.number (.scaled (if b then 1 else 0) 0)

def int (i : Int) : Nat :=
  h.number (.scaled i 0)

mutual

/-- The digest of a value, if it has one. -/
def value : Value → Except String Nat
  | .null => .ok h.nothing
  | .str s => .ok (h.text s)
  | .bool b => .ok (h.bool b)
  | .int i => .ok (h.int i)
  | .float x => .ok (h.number ((Value.float x).number?.getD .nan))
  | .tuple vs => (items vs).map h.combine
  | v => .error v.kind

/-- The digests of some values, if all have one. -/
def items : List Value → Except String (List Nat)
  | [] => .ok []
  | v :: vs => do
    let first ← value v
    return first :: (← items vs)

end

/-- The digest of an entry with an integer. -/
def count (e : String × Int) : Nat :=
  h.combine [h.text e.1, h.int e.2]

/-- The digest of an entry with a text. -/
def feature (e : String × String) : Nat :=
  h.combine [h.text e.1, h.text e.2]

def component (c : Component) : Nat :=
  h.combine [h.text c.vendor, h.text c.version]

def optional {α : Type} (f : α → Nat) : Option α → Nat
  | none => h.nothing
  | some a => f a

def license (l : License) : Nat :=
  h.combine [h.text l.customer, h.text l.type, h.text l.validUntil, h.bool l.unlimited,
    l.features.digest h.feature h.combine, h.text l.raw]

/-- The digest of a set of web applications. -/
def webapps (w : Webapps) : Nat :=
  h.combine (w.toValues.map fun v => (h.value v).toOption.getD 0)

def internals (i : Internals) : Nat :=
  h.combine [h.component i.database, h.component i.jdk, h.optional h.component i.server,
    h.optional h.license i.license, i.commands.digest h.count h.combine,
    i.metrics.digest h.count h.combine, h.webapps i.webapps, h.bool i.enabled]

def product (p : Product) : Nat :=
  h.combine [h.text p.name, h.text p.version, h.text p.edition, h.internals p.internals]

def report (r : Report) : Nat :=
  h.combine [h.text r.installation, h.product r.product]

end Hashing

/-- The kind of the first value of a table that cannot be hashed. -/
def Table.unhashable? (t : Table Value) : Option String :=
  t.values.findSome? Value.unhashable?

/-- The digest of a table of values; one unhashable value leaves the table without. -/
def Hashing.table (h : Hashing) (t : Table Value) : Except String Nat :=
  match t.unhashable? with
  | some kind => .error kind
  | none =>
    .ok (t.digest (fun e => h.combine [h.text e.1, ((h.value e.2).toOption).getD 0]) h.combine)

/-- Whether two tables have the same digest. -/
def Hashing.sameTable (h : Hashing) (a b : Table Value) : Except String Bool := do
  return (← h.table a) == (← h.table b)

end UsageMeter
