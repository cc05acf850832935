import UsageMeter.Logging.Sdk

/-!
The library as it comes. An attribute that it keeps has a name, its lists are frozen to tuples and
the keys of its dictionaries are texts; a record is delivered with a limited number of them.
-/
namespace UsageMeter.Logging

mutual

/-- A value as an attribute keeps it: a key of a dictionary becomes its shown form, and one that
counts as false is dropped with its value. -/
def keptValue : Value → Value
  | .list items => .tuple (keptItems items)
  | .tuple items => .tuple (keptItems items)
  | .dictionary pairs => .object (Table.ofList (keptPairs pairs)).toList
  | v => v

/-- The items of a list as an attribute keeps them. -/
def keptItems : List Value → List Value
  | [] => []
  | v :: vs => keptValue v :: keptItems vs

/-- The pairs of a dictionary as an attribute keeps them. -/
def keptPairs : List (Value × Value) → List (String × Value)
  | [] => []
  | (k, v) :: ps => if k.truth then (k.shown, keptValue v) :: keptPairs ps else keptPairs ps

end

/-- The attributes that are kept: those that have a name. -/
def keptAttributes (t : Table Value) : Table Value :=
  Table.ofList ((t.toList.filter fun e => e.1 ≠ "").map fun e => (e.1, keptValue e.2))

/-- How many attributes are kept of a record. -/
def attributeLimit : Nat := 128

/-- The attributes that a record is delivered with: the last ones within the limit. -/
def deliveredAttributes (pairs : List (String × Value)) : Table Value :=
  let all := keptAttributes (Table.ofList pairs)
  Table.ofList (all.toList.drop (all.size - attributeLimit))

/-- An attribute that is left out if there is nothing to tell. -/
def knownAttribute (name : String) : Value → List (String × Value)
  | .null => []
  | v => [(name, v)]

/-- The attributes that tell where in a program a record was made. -/
def originNames : List String :=
  ["code.file.path", "code.function.name", "code.line.number"]

def originAttributes (r : Record) : List (String × Value) :=
  [("code.file.path", r.get "pathname"), ("code.function.name", r.get "funcName"),
    ("code.line.number", r.get "lineno")]

/-- The attributes that tell an exception. -/
def exceptionNames : List String :=
  ["exception.type", "exception.message", "exception.stacktrace"]

/-- An exception is told by its kind, what it says and its trace, as far as it has them. -/
def exceptionAttributes : Value → List (String × Value)
  | .tuple [kind, said, trace] =>
    knownAttribute "exception.type" kind ++ knownAttribute "exception.message" said ++
      knownAttribute "exception.stacktrace" trace
  | _ => []

/-- The attributes that describe the library and not the installation. -/
def libraryAttributes (version : String) : List (String × Value) :=
  [("telemetry.sdk.language", .str "python"), ("telemetry.sdk.name", .str "opentelemetry"),
    ("telemetry.sdk.version", .str version)]

/-- The name of a service without one, with its executable if that is known. -/
def unknownService (executable : Option Value) : String :=
  match executable with
  | some (.str s) => if s = "" then "unknown_service" else "unknown_service:" ++ s
  | _ => "unknown_service"

/-- The resource with a service name that says something. -/
def Resource.named (r : Resource) : Resource :=
  if ((r.get? serviceAttribute).getD .null).truth then r
  else r.insert serviceAttribute (.str (unknownService (r.get? "process.executable.name")))

/-- The severity that a level name is delivered as. -/
def severityOf (levelName : String) : String :=
  if levelName = "WARNING" then "WARN"
  else if levelName = "CRITICAL" then "FATAL"
  else levelName

/-- The library as it comes, in a version, with nothing configured. Its exporters are shut down with
any processor that passes records to them. -/
def Sdk.standard (version : String) : Sdk where
  resource attributes := Resource.named
    ((Table.ofList (libraryAttributes version)).update (keptAttributes attributes).toList)
  attributes r := deliveredAttributes
    (r.extras ++ originAttributes r ++ exceptionAttributes (r.get "exc_info"))
  severity := severityOf
  ends p q := p.exporter = q.exporter

end UsageMeter.Logging
