import UsageMeter.Command.Basic

/-!
Spans: one record per execution of a command, finished when the execution is.
-/
namespace UsageMeter

/-- How an execution ended. -/
inductive Status where
  | unset | ok | error
deriving DecidableEq

def Status.name : Status → String
  | .unset => "UNSET"
  | .ok => "OK"
  | .error => "ERROR"

/-- A span; its parent is the name of the span around it. -/
structure Span where
  name : String
  attributes : List (String × Value)
  status : Status
  description : Option String
  parent : Option String
  tracer : String

def anonymousSpan : String := "command.anonymous"

/-- The name of the span of a command; an empty name is as good as none. -/
def spanName (name : Option String) : String :=
  match name with
  | none => anonymousSpan
  | some name => if name = "" then anonymousSpan else "command." ++ name

def commandAttribute : String := "engine.command.name"

/-- What a span says about its command; an empty name is as good as none. -/
def commandAttributes (name : Option String) : List (String × Value) :=
  match name with
  | none => []
  | some name => if name = "" then [] else [(commandAttribute, .str name)]

/-- What a span says about an error. One whose text cannot be read has no message. -/
def errorAttributes (e : Raised) : List (String × Value) :=
  [("error", .bool true), ("error.type", .str e.kind)] ++
    match e.text? with
    | .ok text => [("error.message", .str text)]
    | .error _ => []

/-- The tracer of interceptors that name none. -/
def defaultTracer : String := "engine_telemetry.commands"

/-- What goes on from where the texts of ordinary exceptions are read. -/
def Raised.whenRead (e : Raised) : Raised :=
  match e with
  | .mute _ true onText => onText
  | e => e

namespace Span

/-- The span of a command that has just started. -/
def opened (name parent : Option String) (tracer : String) : Span :=
  ⟨spanName name, commandAttributes name, .unset, none, parent, tracer⟩

/-- A failure changes the status of a span if its text can be read; a good status stays. -/
def failing (x : Span) (e : Raised) (description : String → String) : Span :=
  match e.text? with
  | .ok text =>
    if x.status = .ok then x
    else ⟨x.name, x.attributes, .error, some (description text), x.parent, x.tracer⟩
  | .error _ => x

/-- What a span is told when its command returns or raises; an exception that asks the process to
stop leaves no trace in it. -/
def told {α : Type} (x : Span) (result : Except Raised α) : Span :=
  match result with
  | .ok _ => ⟨x.name, x.attributes, .ok, x.description, x.parent, x.tracer⟩
  | .error e =>
    if e.ordinary then
      let marked : Span := ⟨x.name, x.attributes ++ errorAttributes e, x.status, x.description,
        x.parent, x.tracer⟩
      marked.failing e id
    else x

/-- What an exception that passes the end of a span leaves in it. -/
def passed {α : Type} (x : Span) (result : Except Raised α) : Span :=
  match result with
  | .ok _ => x
  | .error e => if e.ordinary then x.failing e fun text => e.kind ++ ": " ++ text else x

end Span

end UsageMeter
