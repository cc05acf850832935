import UsageMeter.Report.Basic

/-!
What is said about assigning to reports. No part of a report can be changed.
-/
namespace UsageMeter

/-- The fields of the parts of a report, by the names of the parts. -/
def partFields : List (String × List String) :=
  [("data", ["installation", "product"]), ("product", ["name", "version", "edition", "internals"]),
    ("internals", ["database", "jdk", "application_server", "license_key", "commands", "metrics",
      "webapps", "telemetry_enabled"]),
    ("database", ["vendor", "version"]), ("jdk", ["vendor", "version"]),
    ("server", ["vendor", "version"]),
    ("license", ["customer", "type", "valid_until", "is_unlimited", "features", "raw"])]

/-- Why an assignment fails: the report lacks the part, the part has the field, or it has not. -/
inductive AssignmentError where
  | noPart (field : String)
  | immutable (field : String)
  | noField
deriving DecidableEq

def AssignmentError.message : AssignmentError → String
  | .noPart field => "'" ++ Value.null.kind ++ "' object has no attribute " ++ Text.quoted field
  | .immutable field => "cannot assign to field " ++ Text.quoted field
  | .noField => "super(type, obj): obj must be an instance or subtype of type"

def Report.hasPart (r : Report) (part : String) : Bool :=
  if part = "server" then r.product.internals.server.isSome
  else if part = "license" then r.product.internals.license.isSome
  else true

/-- The failure of assigning to a field of a part. -/
def Report.assignment (r : Report) (part field : String) : AssignmentError :=
  if !r.hasPart part then .noPart field
  else if ((partFields.lookup part).getD []).contains field then .immutable field
  else .noField

end UsageMeter
