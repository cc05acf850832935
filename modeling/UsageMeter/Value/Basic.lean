/-!
Values that callers supply: increments, flags, identities, log arguments and what commands return.
-/
namespace UsageMeter

/-- A value of one of eight kinds; the keys of a dictionary are values too, and a tuple is a list
that nobody can change. -/
inductive Value where
  | null
  | bool (b : Bool)
  | int (i : Int)
  | float (x : Float)
  | str (s : String)
  | list (items : List Value)
  | tuple (items : List Value)
  | dictionary (pairs : List (Value × Value))

instance : Inhabited Value :=
  ⟨.null⟩

def Value.kind : Value → String
  | .null => "NoneType"
  | .bool _ => "bool"
  | .int _ => "int"
  | .float _ => "float"
  | .str _ => "str"
  | .list _ => "list"
  | .tuple _ => "tuple"
  | .dictionary _ => "dict"

/-- A value counts as false when it is absent, zero or empty. -/
def Value.truth : Value → Bool
  | .null => false
  | .bool b => b
  | .int i => i != 0
  | .float x => x != 0.0
  | .str s => s != ""
  | .list items => !items.isEmpty
  | .tuple items => !items.isEmpty
  | .dictionary pairs => !pairs.isEmpty

/-- The values that iterating over a value gives: a text's characters and a dictionary's keys. -/
def Value.members? : Value → Option (List Value)
  | .str s => some (s.toList.map fun c => .str (String.singleton c))
  | .list items => some items
  | .tuple items => some items
  | .dictionary pairs => some (pairs.map Prod.fst)
  | _ => none

mutual

/-- The kind that stands in the way of hashing a value, if there is one. -/
def Value.unhashable? : Value → Option String
  | .list items => some (Value.list items).kind
  | .dictionary pairs => some (Value.dictionary pairs).kind
  | .tuple items => Value.unhashableItem? items
  | _ => none

/-- The first such kind among some values. -/
def Value.unhashableItem? : List Value → Option String
  | [] => none
  | v :: vs => v.unhashable?.or (Value.unhashableItem? vs)

end

def Value.text? : Value → Option String
  | .str s => some s
  | _ => none

def Value.object (fields : List (String × Value)) : Value :=
  .dictionary (fields.map fun (k, v) => (.str k, v))

end UsageMeter
