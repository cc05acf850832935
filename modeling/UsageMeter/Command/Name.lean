import UsageMeter.Command.Basic
import UsageMeter.Text.Bytes

/-!
Names of commands. A text is counted under itself, a function or a class under its own name, and
anything else under the name of its class. Of a name only the last component counts; what is
anonymous has no name.
-/
namespace UsageMeter

def anonymousFunction : String := "<lambda>"

/-- The text after the last dot. -/
def lastComponent (s : String) : String :=
  String.ofList (s.toList.reverse.takeWhile (· ≠ '.')).reverse

/-- The name under which a qualified name is counted. -/
def countedName? (qualified : String) : Option String :=
  let name := lastComponent qualified
  if name = "" || name = anonymousFunction then none else some name

def Builtin.name : Builtin → String
  | .length => "len"
  | .lookup => "get"
  | .upperCase => "upper"
  | .append => "append"

/-- The name of the function that wraps what has no name. -/
def wrapperName : String := "sync_wrapper"

/-- The name that a command bears, if any; a counted function takes its target's. -/
def Command.ownName? : Command → Option String
  | .function name _ _ => some name
  | .coroutine name _ => some name
  | .method name _ => some name
  | .builtin b => some b.name
  | .object _ (.binding name) _ _ _ => name
  | .classItself name => some name
  | .counted _ _ target => some (target.ownName?.getD wrapperName)
  | _ => none

/-- The text that a command is. -/
def Command.ownText? : Command → Option String
  | .value (.str s) => some s
  | .object _ (.text s) _ _ _ => some s
  | _ => none

/-- What is raised when a name is asked of something that bears none. -/
def missingName (className : String) : Raised :=
  .saying "AttributeError"
    ("'" ++ Text.cutBytes 100 className ++ "' object has no attribute '__name__'") true

/-- The name of a command with all its components. -/
def Command.qualifiedName (c : Command) : Except Raised String :=
  match c.ownText? with
  | some text => .ok text
  | none =>
    if c.isRoutine || c.isClass then
      match c.ownName? with
      | some name => .ok name
      | none => .error (missingName c.typeName)
    else .ok c.typeName

/-- The name under which a command is counted, which what binds as functions do may fail to have. -/
def Command.named (c : Command) : Except Raised (Option String) :=
  c.qualifiedName.map countedName?

/-- The name under which a counted function counts: its explicit name as it is, else its target's.
-/
def resolvedName (explicit : Option String) (target : Command) : Except Raised (Option String) :=
  match explicit with
  | some "" => target.named
  | some name => .ok (some name)
  | none => target.named

/-- Whether a command could be made at all. A function that is to count its calls finds out its name
when it is made. -/
def Command.made : Command → Except Raised Unit
  | .counted _ explicit target =>
    target.made.bind fun _ => (resolvedName explicit target).map fun _ => ()
  | _ => .ok ()

/-- The name under which a command is counted, if it has one. -/
def Command.name? (c : Command) : Option String :=
  c.named.toOption.join

/-- The name under which a counted function counts, if it has one. -/
def resolvedName? (explicit : Option String) (target : Command) : Option String :=
  (resolvedName explicit target).toOption.join

end UsageMeter
