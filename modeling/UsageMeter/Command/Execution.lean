import UsageMeter.Command.Builtin
import UsageMeter.Command.Name
import UsageMeter.Command.Span
import UsageMeter.Hub

/-!
Executing commands. An execution is counted once, when it finishes, under the command's name and in
the tracker of whoever watches it, and its span is finished then too. Whoever watches should have a
tracker: with any other registry, executions that have a name fail when they finish. Calling a
coroutine function does nothing yet; its body runs when the result is awaited.
-/
namespace UsageMeter

/-- What executions leave behind: counts, events and finished spans, the oldest first. -/
structure Recorder where
  hub : Hub
  events : List Event
  spans : List Span

/-- What a call gives back. -/
inductive Reply where
  | value (v : Value)
  | pending
  | instanceOf (className : String)

/-- The outcome of a call. -/
abbrev Outcome := Except Raised Reply

namespace Recorder

/-- Counts a finished execution, and says why if that was not possible. -/
def count (s : Recorder) (tracker : Nat) (name : Option String) : Recorder × Option NotTracker :=
  match name with
  | none => (s, none)
  | some name =>
    let (hub, answer, events) := s.hub.stepRegistry tracker (.record name)
    (⟨hub, s.events ++ events, s.spans⟩, match answer with
      | .refused e => some e
      | _ => none)

def finish (s : Recorder) (span : Span) : Recorder :=
  ⟨s.hub, s.events, s.spans ++ [span]⟩

/-- Tells the span of an execution how its command ended, counts the execution and finishes the
span. An execution that cannot be counted fails, whatever its result was. The texts of ordinary
exceptions are read twice on their way out, for the span and at its end. -/
def close (s : Recorder) (i : Interceptor) (name parent : Option String) (result : Outcome) :
    Recorder × Outcome :=
  let span := (Span.opened name parent i.tracer).told result
  let (s, failure) := s.count i.tracker name
  let leaving := match failure with
    | none => result.mapError Raised.whenRead
    | some e => .error (.saying "AttributeError" e.message true)
  (s.finish (span.passed leaving), leaving.mapError Raised.whenRead)

end Recorder

/-- Named arguments in order of their names. -/
def sortNamed (named : List (String × Value)) : List (String × Value) :=
  named.mergeSort fun a b => a.1 ≤ b.1

def Ending.outcome (e : Ending) (args : List Value) (named : List (String × Value)) : Outcome :=
  match e with
  | .raises e => .error e
  | .echoes =>
    .ok (.value (.list [.list args, .dictionary ((sortNamed named).map fun (k, v) => (.str k, v))]))
  | .returns v => .ok (.value v)

/-- An exception as it leaves a coroutine. The one that ends an iteration may not pass. -/
def Raised.leavingCoroutine (e : Raised) : Raised :=
  if e.kind = "StopIteration" then .saying "RuntimeError" "coroutine raised StopIteration" true
  else e

/-- How a command is used: by an interceptor, by a call, or by a call that is awaited. -/
inductive Use where
  | execute | call | await
deriving DecidableEq

/-- The attribute of an object that a use reaches. -/
def slotFor (use : Use) (nature : Nature) (execute call : Slot) : Slot :=
  if use = .execute && execute.isCallable && !nature.binds then execute else call

/-- What calling an attribute other than the body gives. -/
def Slot.otherwise (slot : Slot) (className : String) : Outcome :=
  match slot with
  | .wrong => .ok (.value (.str "wrong target"))
  | .data => .error (notCallable "int")
  | _ => .error (notCallable className)

/-- What an interceptor finds out before it opens a span: that the command could be made, that there
is a part to invoke, and the name under which the command counts. -/
def Command.enter (c : Command) : Except Raised (Option String) :=
  match c.made with
  | .error e => .error e
  | .ok _ =>
    match c.resolve with
    | .error refusal => .error (typeError refusal.message)
    | .ok _ => c.named

/-- What a function that counts its calls knows before it calls its target: the name under which it
counts, or what it gives without calling it. One that could not be made fails, and a coroutine
function gives something to be awaited. -/
def startCounted (explicit : Option String) (target : Command) (use : Use) :
    Except Outcome (Option String) :=
  match target.made.bind fun _ => resolvedName explicit target with
  | .error e => .error (.error e)
  | .ok name => if target.isCoroutine && use ≠ .await then .error (.ok .pending) else .ok name

mutual

/-- Uses a command inside a span. -/
def Command.apply (c : Command) (use : Use) (parent : Option String) (args : List Value)
    (named : List (String × Value)) (s : Recorder) : Recorder × Outcome :=
  match c with
  | .function _ _ body => body.run parent args named s
  | .method _ body => body.run parent args named s
  | .preset body => body.run parent args named s
  | .coroutine _ body =>
    if use = .await then
      let (s, result) := body.run parent args named s
      (s, result.mapError Raised.leavingCoroutine)
    else (s, .ok .pending)
  | .builtin b => (s, ((b.apply args !named.isEmpty).mapError typeError).map Reply.value)
  | .object className nature execute call body =>
    let slot := slotFor use nature execute call
    if slot = .body then body.run parent args named s else (s, slot.otherwise className)
  | .classItself name =>
    if args.isEmpty && named.isEmpty then (s, .ok (.instanceOf name))
    else (s, .error (typeError (shownClass name ++ "() takes no arguments")))
  | .value v => (s, .error (notCallable v.kind))
  | .counted i explicit target =>
    match startCounted explicit target use with
    | .error result => (s, result)
    | .ok name =>
      let inner := if use = .await then .await else .call
      let (s, result) := target.apply inner (some (spanName name)) args named s
      s.close i name parent result

/-- Runs a body inside a span. -/
def Body.run (b : Body) (parent : Option String) (args : List Value)
    (named : List (String × Value)) (s : Recorder) : Recorder × Outcome :=
  match b with
  | .finish e => (s, e.outcome args named)
  | .execute i c cargs rest =>
    match c.enter with
    | .error e => (s, .error e)
    | .ok name =>
      let (s, result) := c.apply .execute (some (spanName name)) cargs [] s
      match s.close i name parent result with
      | (s, .error e) => (s, .error e)
      | (s, .ok _) => rest.run parent args named s
  | .call c rest =>
    match c.apply .call parent [] [] s with
    | (s, .error e) => (s, .error e)
    | (s, .ok _) => rest.run parent args named s
  | .await c rest =>
    match c.apply .await parent [] [] s with
    | (s, .error e) => (s, .error e)
    | (s, .ok _) => rest.run parent args named s

end

/-- Executes a command through an interceptor; a refused one is neither run nor counted. -/
def Interceptor.execute (i : Interceptor) (c : Command) (parent : Option String)
    (args : List Value) (named : List (String × Value)) (s : Recorder) : Recorder × Outcome :=
  match c.enter with
  | .error e => (s, .error e)
  | .ok name =>
    let (s, result) := c.apply .execute (some (spanName name)) args named s
    s.close i name parent result

/-- The names of an interceptor's own parameters, which no named argument may have. -/
def reservedNames : List String := ["self", "command"]

/-- Executes a command from outside any span and awaits what it gives back. -/
def Interceptor.executeAndAwait (i : Interceptor) (c : Command) (args : List Value)
    (named : List (String × Value)) (s : Recorder) : Recorder × Outcome :=
  match named.find? fun e => reservedNames.contains e.1 with
  | some (name, _) =>
    (s, .error (typeError ("CommandCounterInterceptor.execute() got multiple values for argument '"
      ++ name ++ "'")))
  | none =>
    match i.execute c none args named s with
    | (s, .ok .pending) => c.apply .await none args named s
    | (s, result) => (s, result)

/-- Calls a command from outside any span and awaits what it gives back. -/
def Command.callAndAwait (c : Command) (args : List Value) (named : List (String × Value))
    (s : Recorder) : Recorder × Outcome :=
  c.apply .await none args named s

end UsageMeter
