import UsageMeter.Value.Written

/-!
Commands: what an engine executes. A command is a tree, since running one can run others through
interceptors and call counted functions; a leaf of a body raises or returns.
-/
namespace UsageMeter

/-- An exception: one that says a text, or one whose text cannot be read, since reading it raises
another exception. Only ordinary ones count as errors; the others ask the process to stop. -/
inductive Raised where
  | saying (kind text : String) (ordinary : Bool)
  | mute (kind : String) (ordinary : Bool) (onText : Raised)
deriving DecidableEq

namespace Raised

def kind : Raised → String
  | saying kind _ _ => kind
  | mute kind _ _ => kind

def ordinary : Raised → Bool
  | saying _ _ ordinary => ordinary
  | mute _ ordinary _ => ordinary

/-- The text of an exception, or what is raised when it is read. -/
def text? : Raised → Except Raised String
  | saying _ text _ => .ok text
  | mute _ _ onText => .error onText

def readable : Raised → Bool
  | saying _ _ _ => true
  | mute _ _ _ => false

end Raised

/-- The kinds of exceptions that ask the process to stop. -/
def stopKinds : List String := ["BaseException", "GeneratorExit", "KeyboardInterrupt", "SystemExit"]

/-- The kinds that go by another name. -/
def kindNames : List (String × String) :=
  [("EnvironmentError", "OSError"), ("IOError", "OSError")]

/-- The kinds that cannot be made from a message alone, with what they say then. -/
def demandingKinds : List (String × String) :=
  [("BaseExceptionGroup", "BaseExceptionGroup.__new__() takes exactly 2 arguments"),
    ("ExceptionGroup", "BaseExceptionGroup.__new__() takes exactly 2 arguments"),
    ("UnicodeDecodeError", "function takes exactly 5 arguments"),
    ("UnicodeEncodeError", "function takes exactly 5 arguments"),
    ("UnicodeTranslateError", "function takes exactly 4 arguments")]

/-- The text of an exception; a missing key is quoted, and some kinds say that they have no message.
-/
def raisedText (kind : String) (message : Option String) : String :=
  match message with
  | some text => if kind = "KeyError" then Text.quoted text else text
  | none =>
    if ["SyntaxError", "IndentationError", "TabError"].contains kind then Value.null.written else ""

/-- An exception made with a message or with none. -/
def Raised.ofMessage (kind : String) (message : Option String) : Raised :=
  match demandingKinds.lookup kind with
  | some text =>
    .saying "TypeError" (text ++ " (" ++ (if message.isSome then "1" else "0") ++ " given)") true
  | none =>
    .saying ((kindNames.lookup kind).getD kind) (raisedText kind message) !stopKinds.contains kind

/-- The functions that come with the language of the commands. -/
inductive Builtin where
  | length | lookup | upperCase | append
deriving DecidableEq

/-- What an attribute of an object's class is: nothing, the command's body, another function, or
data that cannot be called. -/
inductive Slot where
  | absent | body | wrong | data
deriving DecidableEq

/-- What its class makes of an object besides its methods: nothing, a text, or something that binds
to instances as functions do and may bear a name of its own. -/
inductive Nature where
  | plain
  | text (s : String)
  | binding (name : Option String)
deriving DecidableEq

def Nature.binds : Nature → Bool
  | .binding _ => true
  | _ => false

/-- How a body ends: it raises, gives back what it was given, or returns a value. -/
inductive Ending where
  | raises (e : Raised)
  | echoes
  | returns (v : Value)

/-- What counts executions: a tracker's number and the name of a tracer. -/
structure Interceptor where
  tracker : Nat
  tracer : String
deriving DecidableEq

mutual

/-- A command. `preset` is a function with some arguments filled in, and `counted` a function that
counts its calls by itself, under a name of its own or that of its target. -/
inductive Command where
  | function (name : String) (executeAttribute : Bool) (body : Body)
  | coroutine (name : String) (body : Body)
  | method (name : String) (body : Body)
  | builtin (b : Builtin)
  | preset (body : Body)
  | object (className : String) (nature : Nature) (execute call : Slot) (body : Body)
  | classItself (name : String)
  | value (v : Value)
  | counted (watcher : Interceptor) (explicit : Option String) (target : Command)

/-- What running a command does, in order. -/
inductive Body where
  | finish (e : Ending)
  | execute (watcher : Interceptor) (c : Command) (args : List Value) (rest : Body)
  | call (c : Command) (rest : Body)
  | await (c : Command) (rest : Body)

end

instance : Inhabited Command :=
  ⟨.value .null⟩

instance : Inhabited Body :=
  ⟨.finish (.returns .null)⟩

/-- Whether calling the command gives something to be awaited. -/
def Command.isCoroutine : Command → Bool
  | .coroutine _ _ => true
  | .counted _ _ target => target.isCoroutine
  | _ => false

def Command.isClass : Command → Bool
  | .classItself _ => true
  | _ => false

/-- Functions of all sorts, whatever attributes they have, and what binds as they do. -/
def Command.isRoutine : Command → Bool
  | .function _ _ _ => true
  | .coroutine _ _ => true
  | .method _ _ => true
  | .builtin _ => true
  | .counted _ _ _ => true
  | .object _ nature _ _ _ => nature.binds
  | _ => false

def Slot.isCallable : Slot → Bool
  | .body => true
  | .wrong => true
  | _ => false

/-- Whether the command has an execute method that can be called. -/
def Command.hasExecute : Command → Bool
  | .object _ _ execute _ _ => execute.isCallable
  | .function _ executeAttribute _ => executeAttribute
  | _ => false

/-- Whether the command itself can be called; having a call attribute is enough. -/
def Command.isCallable : Command → Bool
  | .object _ _ _ call _ => call ≠ .absent
  | .value _ => false
  | _ => true

/-- The kind that an object of the command's sort is called in messages. -/
def Command.typeName : Command → String
  | .function _ _ _ => "function"
  | .coroutine _ _ => "function"
  | .counted _ _ _ => "function"
  | .method _ _ => "method"
  | .builtin .length => "builtin_function_or_method"
  | .builtin .append => "builtin_function_or_method"
  | .builtin _ => "method_descriptor"
  | .preset _ => "partial"
  | .object className _ _ _ _ => className
  | .classItself _ => "type"
  | .value v => v.kind

/-- What an interceptor invokes. -/
inductive Part where
  | itself | executeMethod
deriving DecidableEq

/-- Why an interceptor refuses a command. -/
inductive Refusal where
  | classItself (name : String)
  | notExecutable (typeName : String)
deriving DecidableEq

def Refusal.message : Refusal → String
  | .classItself name => "Pass a " ++ name ++ " instance, not the class itself"
  | .notExecutable typeName => typeName ++ " is neither callable nor exposes execute()"

/-- The part to invoke: the execute method of what is no routine and has one that can be called,
else the command itself. Classes are refused, their instances are meant. -/
def Command.resolve : Command → Except Refusal Part
  | .classItself name => .error (.classItself name)
  | c =>
    if c.hasExecute && !c.isRoutine then .ok .executeMethod
    else if c.isCallable then .ok .itself
    else .error (.notExecutable c.typeName)

end UsageMeter
