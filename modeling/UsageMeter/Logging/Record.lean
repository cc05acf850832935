import UsageMeter.Table
import UsageMeter.Template.Fill
import UsageMeter.Timestamp

/-!
Log records: a message with arguments, and attributes of which some are standard and the others were
added by the caller.
-/
namespace UsageMeter.Logging

/-- A record. Its arguments are kept apart from its other attributes, which stand in the order in
which they were set. -/
structure Record where
  args : Option Template.Arguments
  attributes : Table Value

/-- The attributes that every record may have; all others are the caller's. -/
def standardFields : List String :=
  ["args", "created", "exc_info", "exc_text", "filename", "funcName", "levelname", "levelno",
    "lineno", "message", "module", "msecs", "msg", "name", "pathname", "process", "processName",
    "relativeCreated", "stack_info", "taskName", "thread", "threadName"]

def isStandard (name : String) : Bool :=
  standardFields.contains name

def levelName (level : Int) : String :=
  if level = 0 then "NOTSET"
  else if level = 10 then "DEBUG"
  else if level = 20 then "INFO"
  else if level = 30 then "WARNING"
  else if level = 40 then "ERROR"
  else if level = 50 then "CRITICAL"
  else "Level " ++ toString level

/-- The level with a name, unset if there is none of that name. -/
def levelNumber (name : String) : Int :=
  ([10, 20, 30, 40, 50].find? fun level => levelName level == name).getD 0

/-- The arguments of a call: a single dictionary that is not empty is a mapping for the message. -/
def callArguments : List Value → Template.Arguments
  | [.dictionary (p :: ps)] => .single (.dictionary (p :: ps))
  | args => .row args

/-- The arguments that a value stands for when it is set: a tuple is a row of them, any other value
is a single one. -/
def givenArguments : Value → Template.Arguments
  | .tuple items => .row items
  | v => .single v

namespace Record

/-- A record as a call makes it. Of the standard attributes it has those that a call decides. -/
def make (logger : String) (level : Int) (msg : Value) (args : List Value) (created : Value)
    (excInfo stackInfo : Value) : Record :=
  ⟨some (callArguments args), Table.ofList [("name", .str logger), ("msg", msg),
    ("levelname", .str (levelName level)), ("levelno", .int level), ("exc_info", excInfo),
    ("stack_info", stackInfo), ("created", created)]⟩

/-- The value of an attribute, `null` if it is not set. -/
def get (r : Record) (name : String) : Value :=
  (r.attributes.get? name).getD .null

def set (r : Record) (name : String) (v : Value) : Record :=
  if name = "args" then ⟨some (givenArguments v), r.attributes⟩
  else ⟨r.args, r.attributes.insert name v⟩

def setAll (r : Record) (pairs : List (String × Value)) : Record :=
  pairs.foldl (fun r e => r.set e.1 e.2) r

def extras (r : Record) : List (String × Value) :=
  r.attributes.toList.filter fun e => !isStandard e.1

end Record

/-- Whether there are arguments to fill in. -/
def hasArguments : Option Template.Arguments → Bool
  | none => false
  | some (.row args) => !args.isEmpty
  | some (.single v) => v.truth

/-- Why a record cannot be processed. -/
inductive RecordError where
  | template (e : Template.Error)
  | timestamp (e : Timestamp.Error)
  | notFormatter (kind : String)
deriving DecidableEq

def RecordError.className : RecordError → String
  | .template e => e.className
  | .timestamp e => e.className
  | .notFormatter _ => "TypeError"

def RecordError.message : RecordError → String
  | .template e => e.message
  | .timestamp e => e.message
  | .notFormatter kind => notCallableMessage kind

/-- The attribute that formats the message of a record; a caller can hide it behind a value. -/
def formatterAttribute : String := "getMessage"

/-- The message, with its arguments filled in if there are any; else it is taken as it stands. -/
def Record.formatted (r : Record) : Except RecordError String :=
  let text := (r.get "msg").shown
  match r.attributes.get? formatterAttribute, r.args with
  | some v, _ => .error (.notFormatter v.kind)
  | none, some args =>
    if hasArguments (some args) then (Template.fill text args).mapError RecordError.template
    else .ok text
  | none, none => .ok text

/-- The time of the record in its written form. -/
def Record.written (r : Record) : Except RecordError String :=
  (Timestamp.writtenOfValue (r.get "created")).mapError RecordError.timestamp

end UsageMeter.Logging
