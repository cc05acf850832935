import UsageMeter.Event
import UsageMeter.Logging.Loggers
import UsageMeter.Logging.Sdk
import UsageMeter.Logging.Structured

/-!
Routing of log calls. A call that its logger's level lets through goes to the handlers of the logger
and of those above it, up to the first that does not propagate. Each setup has one handler, which
structures the record and passes it to the setup's processor; all handlers work on the same record,
one after the other. Besides, a program may listen on a logger with a handler of its own, which is
no setup's: it reads the message before the setups' handlers do, so that a message that cannot be
formatted fails the call even where none of them is reached.
-/
namespace UsageMeter.Logging

/-- A setup: the level of its handler, its resource, the logger for which it was made, its
processor, and whether it was not shut down. -/
structure Setup where
  level : Int
  resource : Resource
  loggerName : String
  processor : Processor
  active : Bool

/-- Where a setup delivers to: an address, an exporter or a processor. -/
inductive Destination where
  | endpoint (address : String)
  | exporter (x : Exporter)
  | processor (p : Processor)
deriving DecidableEq

/-- The destination of a caller who names any of the three: a processor comes before an exporter,
and that before an address. -/
def Destination.named? (endpoint : Option String) (exporter : Option Exporter)
    (processor : Option Processor) : Option Destination :=
  (processor.map .processor).or ((exporter.map .exporter).or (endpoint.map .endpoint))

/-- The processor of a setup, made around an exporter unless the caller gives one. -/
def Destination.processorFor (setup : Nat) : Destination → Processor
  | .endpoint address => .batching setup (.sending setup address)
  | .exporter x => .batching setup x
  | .processor p => p

/-- A setup that would deliver nowhere. -/
structure NoDestination where
deriving DecidableEq

def NoDestination.message (_ : NoDestination) : String :=
  "configure_otel_logging needs an endpoint, exporter or processor"

/-- The library, all loggers, all setups in order of creation, and what was delivered, with the
setup that delivered it, in order. -/
structure Router where
  sdk : Sdk
  loggers : Loggers
  setups : List Setup
  deliveries : List (Nat × Delivered)

namespace Router

/-- The loggers that are there from the start: the root, and those that the engine logs to. -/
def initialLoggers : Loggers :=
  ["engine_telemetry.telemetry.metrics", "engine_telemetry.telemetry.state",
    "engine_telemetry.telemetry.assembler", "engine_telemetry.service"].foldl Loggers.create
    (Table.ofList [(rootName, ⟨30, true, [], none, false⟩)])

def initial (sdk : Sdk) : Router :=
  ⟨sdk, initialLoggers, [], []⟩

/-- The same router with other loggers. -/
def withLoggers (r : Router) (loggers : Loggers) : Router :=
  ⟨r.sdk, loggers, r.setups, r.deliveries⟩

@[simp]
theorem loggers_withLoggers (r : Router) (loggers : Loggers) :
    (r.withLoggers loggers).loggers = loggers :=
  rfl

/-- The same router with other setups. -/
def withSetups (r : Router) (setups : List Setup) : Router :=
  ⟨r.sdk, r.loggers, setups, r.deliveries⟩

@[simp]
theorem setups_withSetups (r : Router) (setups : List Setup) :
    (r.withSetups setups).setups = setups :=
  rfl

def touch (r : Router) (name : String) : Router :=
  r.withLoggers (r.loggers.create name)

def logger (r : Router) (name : String) : Logger :=
  r.loggers.find name

def setLogger (r : Router) (name : String) (l : Logger) : Router :=
  r.withLoggers (r.loggers.put name l)

/-- The level that decides for a logger: the first one set from there upwards. -/
def effectiveLevel (r : Router) (name : String) : Int :=
  ((r.loggers.lineage name).map fun n => (r.logger n).level).find? (· ≠ levelUnset)
    |>.getD levelUnset

/-- Attaches the handler of a setup to a logger, which takes over its level and stops propagating.
-/
def attach (r : Router) (i : Nat) (name : String) : Router :=
  let r := r.touch name
  match r.setups[i]? with
  | none => r
  | some s =>
    let l := r.logger name
    let handlers := if l.handlers.contains i then l.handlers else l.handlers ++ [i]
    r.setLogger name ⟨s.level, false, handlers, l.parent, l.listened⟩

/-- The level of handlers that name none. -/
def defaultLevel : Int := 20

/-- The logger to which setups are attached that name none. -/
def defaultLogger : String := "engine_telemetry"

/-- Makes a setup and attaches it to its logger; without a destination nothing changes. -/
def configure (r : Router) (destination : Option Destination) (static : StaticData)
    (extra : List (String × Value)) (level : Int) (loggerName : String) :
    Except NoDestination (Router × Nat) :=
  match destination with
  | none => .error ⟨⟩
  | some d =>
    let i := r.setups.length
    let s : Setup := ⟨level, resourceOf r.sdk static extra, loggerName, d.processorFor i, true⟩
    .ok ((r.withSetups (r.setups ++ [s])).attach i loggerName, i)

/-- Ends a setup: its handler leaves the logger for which the setup was made, and its processor is
shut down. -/
def shutdown (r : Router) (i : Nat) : Router :=
  match r.setups[i]? with
  | none => r
  | some s =>
    let l := r.logger s.loggerName
    let r := if l.handlers.contains i then
      r.setLogger s.loggerName
        ⟨l.level, l.propagate, l.handlers.erase i, l.parent, l.listened⟩ else r
    r.withSetups (r.setups.set i ⟨s.level, s.resource, s.loggerName, s.processor, false⟩)

/-- Some loggers by name, up to the first that does not propagate. -/
def along (r : Router) : List String → List Logger
  | [] => []
  | name :: names =>
    let l := r.logger name
    if l.propagate then l :: r.along names else [l]

/-- The loggers that a call to a logger passes, in order. -/
def passed (r : Router) (name : String) : List Logger :=
  r.along (r.loggers.lineage name)

/-- The handlers that a call to a logger reaches, in order. -/
def reached (r : Router) (name : String) : List Nat :=
  (r.passed name).flatMap Logger.handlers

/-- Whether a program listens on a logger that a call to a logger passes. -/
def overheard (r : Router) (name : String) : Bool :=
  (r.passed name).any Logger.listened

/-- Whether a setup delivers: no setup that was shut down, itself or another, has a processor whose
end is also that of the setup's own. -/
def delivers (r : Router) (i : Nat) : Bool :=
  match r.setups[i]? with
  | none => false
  | some s => !r.setups.any fun t => !t.active && r.sdk.ends t.processor s.processor

/-- Delivers a record for a setup, if that still delivers. -/
def deliver (r : Router) (i : Nat) (d : Delivered) : Router :=
  if r.delivers i then ⟨r.sdk, r.loggers, r.setups, r.deliveries ++ [(i, d)]⟩ else r

def forget (r : Router) (i : Nat) : Router :=
  ⟨r.sdk, r.loggers, r.setups, r.deliveries.filter fun e => e.1 ≠ i⟩

/-- What a setup has delivered. -/
def deliveredBy (r : Router) (i : Nat) : List Delivered :=
  (r.deliveries.filter fun e => e.1 = i).map Prod.snd

end Router

/-- A log call. An exception that it tells is its kind, what it says and its trace, in a tuple. -/
structure Call where
  logger : String
  level : Int
  msg : Value
  args : List Value
  extras : List (String × Value)
  created : Value
  excInfo : Value
  stackInfo : Value

/-- Why a log call fails. -/
inductive CallError where
  | overwrites (name : String)
  | record (e : RecordError)
deriving DecidableEq

def CallError.className : CallError → String
  | .overwrites _ => "KeyError"
  | .record e => e.className

def CallError.message : CallError → String
  | .overwrites name =>
    Text.quoted ("Attempt to overwrite " ++ Text.quoted name ++ " in LogRecord")
  | .record e => e.message

/-- The names that the caller's attributes may not have: those of attributes that records have from
the start or get when they are written. -/
def isReserved (name : String) : Bool :=
  name = "asctime" || (isStandard name && name ≠ "taskName")

/-- The record of a call without what its caller adds. -/
def Call.bare (c : Call) : Record :=
  .make (canonical c.logger) c.level c.msg c.args c.created c.excInfo c.stackInfo

def Call.record (c : Call) : Except CallError Record :=
  match c.extras.find? fun e => isReserved e.1 with
  | some (name, _) => .error (.overwrites name)
  | none => .ok (c.bare.setAll c.extras)

namespace Router

/-- Passes a record to handlers in order; a failure ends the call. -/
def pass (level : Int) : List Nat → Record → Router → Router × Except CallError Unit
  | [], _, r => (r, .ok ())
  | i :: is, record, r =>
    match r.setups[i]? with
    | none => pass level is record r
    | some s =>
      if level < s.level then pass level is record r
      else match record.structured s.resource with
        | .error e => (r, .error (.record e))
        | .ok record => pass level is record (r.deliver i (record.delivered r.sdk))

/-- Whether a logger lets a level through. The unset level and those below it never pass. -/
def lets (r : Router) (name : String) (level : Int) : Bool :=
  levelUnset < level && r.effectiveLevel name ≤ level

/-- Hears a record if a program listens: its message is read, and the record stays as it is. A
logger that is listened on is passed before any setup's handler is reached, for loggers with those
do not propagate, and one that has both was listened on first. -/
def hear (r : Router) (name : String) (record : Record) : Except CallError Unit :=
  if r.overheard name then (record.formatted.mapError CallError.record).map fun _ => ()
  else .ok ()

def log (r : Router) (c : Call) : Router × Except CallError Unit :=
  let r := r.touch c.logger
  if !r.lets c.logger c.level then (r, .ok ())
  else match c.record with
    | .error e => (r, .error e)
    | .ok record => match r.hear c.logger record with
      | .error e => (r, .error e)
      | .ok _ => pass c.level (r.reached c.logger) record r

/-- Logs an event of the library itself. -/
def report (r : Router) (e : Event) : Router × Except CallError Unit :=
  r.log ⟨e.logger, levelNumber e.level, .str e.message, [], [], .int 0, .null, .null⟩

end Router
end UsageMeter.Logging
