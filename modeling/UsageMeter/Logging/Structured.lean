import UsageMeter.Logging.Record
import UsageMeter.Logging.Resource
import UsageMeter.Report.Rendered

/-!
Structured records. Structuring a record replaces its message by a dictionary of what it says, with
the resource and the caller's attributes, and marks it with the installation; if message or time
cannot be written, nothing changes.
-/
namespace UsageMeter.Logging

/-- A dictionary under a key, left out if it is empty. -/
def objectField (name : String) (fields : List (String × Value)) : List (String × Value) :=
  if fields.isEmpty then [] else [(name, .object fields)]

/-- The body of a record whose time and message are written. -/
def Record.body (r : Record) (resource : Resource) (time message : String) : Value :=
  .object ([("timestamp", .str time), ("severity_text", r.get "levelname"),
    ("logger_name", r.get "name"), ("message", .str message)] ++
    objectField "resource" resource.toList ++ objectField "attributes" r.extras)

/-- Marks a record with the installation, if the resource names one. -/
def Record.mark (r : Record) (resource : Resource) : Record :=
  match resource.get? instanceAttribute with
  | some .null => r
  | some v => r.set instanceAttribute v
  | none => r

/-- Work on a record in place. What a step has done to it stays, also when a later step fails. -/
abbrev Edit (α : Type) := ExceptT RecordError (StateM Record) α

/-- What the work gives, and what has become of the record. -/
def Edit.perform {α : Type} (e : Edit α) (r : Record) : Except RecordError α × Record :=
  e.run.run r

namespace Edit
variable {α β : Type} (r : Record)

theorem perform_bind (e : Edit α) (f : α → Edit β) :
    (e >>= f).perform r =
      match e.perform r with
      | (.ok a, r') => (f a).perform r'
      | (.error x, r') => (.error x, r') := by
  change (ExceptT.bindCont f (e.run.run r).1).run (e.run.run r).2 = _
  rw [perform]
  obtain ⟨_ | _, _⟩ := e.run.run r <;> rfl

theorem perform_pure (a : α) : (pure a : Edit α).perform r = (.ok a, r) :=
  rfl

theorem perform_get : (get : Edit Record).perform r = (.ok r, r) :=
  rfl

theorem perform_modify (f : Record → Record) :
    (modify f : Edit Unit).perform r = (.ok (), f r) :=
  rfl

theorem perform_lift (x : Except RecordError α) : (liftM x : Edit α).perform r = (x, r) := by
  cases x <;> rfl

end Edit

/-- Structures a record in place, step by step; a record that was structured is kept. -/
def structuring (resource : Resource) : Edit Bool := do
  let r ← get
  let message ← r.formatted
  let time ← r.written
  let body := r.body resource time message
  modify fun r => r.set "msg" body
  modify fun r => ⟨none, r.attributes⟩
  modify fun r => r.set "message" (.str message)
  modify fun r => r.mark resource
  return true

def Record.filter (r : Record) (resource : Resource) : Except RecordError Bool × Record :=
  (structuring resource).perform r

/-- The record as it is passed on once it is structured. -/
def Record.structured (r : Record) (resource : Resource) : Except RecordError Record :=
  match r.filter resource with
  | (.ok _, r') => .ok r'
  | (.error e, _) => .error e

end UsageMeter.Logging
