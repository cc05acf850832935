import UsageMeter.Decimal.Layout
import UsageMeter.Table
import UsageMeter.Text.Quoted
import UsageMeter.Value.Basic

/-!
Written forms of values. The written form quotes texts; the shown form of a text is the text itself,
and every other value is shown as it is written. A tuple with one item ends in a comma. An integer
is written with all its digits, for an interpreter that sets no limit on how many it writes.
-/
namespace UsageMeter

mutual

def Value.written : Value → String
  | .null => "None"
  | .bool true => "True"
  | .bool false => "False"
  | .int i => toString i
  | .float x => Decimal.plain x
  | .str s => Text.quoted s
  | .list items => "[" ++ String.intercalate ", " (Value.writtenItems items) ++ "]"
  | .tuple [v] => "(" ++ v.written ++ ",)"
  | .tuple items => "(" ++ String.intercalate ", " (Value.writtenItems items) ++ ")"
  | .dictionary pairs => "\x7b" ++ String.intercalate ", " (Value.writtenPairs pairs) ++ "\x7d"

/-- The written forms of the items of a list. -/
def Value.writtenItems : List Value → List String
  | [] => []
  | v :: vs => v.written :: Value.writtenItems vs

/-- The written forms of the pairs of a dictionary. -/
def Value.writtenPairs : List (Value × Value) → List String
  | [] => []
  | (k, v) :: ps => (k.written ++ ": " ++ v.written) :: Value.writtenPairs ps

end

def Value.shown : Value → String
  | .str s => s
  | v => v.written

/-- The written form of a table of values. -/
def Table.written (t : Table Value) : String :=
  "FrozenMapping(" ++ (Value.dictionary (t.entries.map fun (k, v) => (.str k, v))).written ++ ")"

/-- What is said about changing a table in place. -/
def readOnlyMessage (change : String) : String :=
  "'FrozenMapping' object does not support item " ++ change

/-- What is said about a value that cannot be hashed. -/
def unhashableMessage (kind : String) : String :=
  "unhashable type: '" ++ kind ++ "'"

/-- What is said about calling what cannot be called. -/
def notCallableMessage (kind : String) : String :=
  "'" ++ kind ++ "' object is not callable"

end UsageMeter
