import UsageMeter.Command.Basic
import UsageMeter.Text.Bytes
import UsageMeter.Text.Upper
import UsageMeter.Value.Equality
import UsageMeter.Value.Written

/-!
What the builtin functions do with their arguments. All that they complain of is an argument that
they cannot take.
-/
namespace UsageMeter

/-- An argument that a function cannot take. -/
def typeError (text : String) : Raised :=
  .saying "TypeError" text true

/-- How much of the name of a class is shown. -/
def shownClass (name : String) : String :=
  Text.cutBytes 200 name

def notCallable (typeName : String) : Raised :=
  typeError (notCallableMessage (shownClass typeName))

/-- A method applied to something of another kind than its own. -/
def foreignReceiver (method kind : String) (v : Value) : String :=
  "descriptor '" ++ method ++ "' for '" ++ kind ++ "' objects doesn't apply to a '" ++ v.kind ++
    "' object"

/-- The number of members of a value. -/
def lengthOf (v : Value) : Except String Value :=
  match v with
  | .str s => .ok (.int s.toList.length)
  | .list items => .ok (.int items.length)
  | .tuple items => .ok (.int items.length)
  | .dictionary pairs => .ok (.int pairs.length)
  | _ => .error ("object of type '" ++ v.kind ++ "' has no len()")

/-- The single argument of a function that takes no named ones. -/
def onlyArgument (function : String) (args : List Value) (named : Bool) : Except String Value :=
  if named then .error (function ++ " takes no keyword arguments")
  else match args with
    | [v] => .ok v
    | _ => .error (function ++ " takes exactly one argument (" ++ toString args.length ++ " given)")

/-- The entry of a dictionary, or what stands for a missing one. -/
def lookupIn (pairs : List (Value × Value)) (key default : Value) : Except String Value :=
  match key.unhashable? with
  | some kind => .error (unhashableMessage kind)
  | none => .ok ((Value.lookup? key pairs).getD default)

/-- The look-up method, its dictionary being the first argument. -/
def lookupMethod (args : List Value) (named : Bool) : Except String Value :=
  match args with
  | [] => .error "unbound method dict.get() needs an argument"
  | .dictionary pairs :: rest =>
    if named then .error "dict.get() takes no keyword arguments"
    else match rest with
      | [] => .error "get expected at least 1 argument, got 0"
      | [key] => lookupIn pairs key .null
      | [key, default] => lookupIn pairs key default
      | _ => .error ("get expected at most 2 arguments, got " ++ toString rest.length)
  | v :: _ => .error (foreignReceiver "get" "dict" v)

/-- The upper-case method, its text being the first argument. -/
def upperMethod (args : List Value) (named : Bool) : Except String Value :=
  match args with
  | [] => .error "unbound method str.upper() needs an argument"
  | .str s :: rest =>
    if named then .error "str.upper() takes no keyword arguments"
    else if rest.isEmpty then .ok (.str (Text.upper s))
    else .error ("str.upper() takes no arguments (" ++ toString rest.length ++ " given)")
  | v :: _ => .error (foreignReceiver "upper" "str" v)

/-- The result of a builtin function; appending is to a list that nobody keeps. -/
def Builtin.apply (b : Builtin) (args : List Value) (named : Bool) : Except String Value :=
  match b with
  | .length => (onlyArgument "len()" args named).bind lengthOf
  | .lookup => lookupMethod args named
  | .upperCase => upperMethod args named
  | .append => (onlyArgument "list.append()" args named).map fun _ => .null

end UsageMeter
