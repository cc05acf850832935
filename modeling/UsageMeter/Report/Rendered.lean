import UsageMeter.Report.Basic
import UsageMeter.Value.Equality

/-!
The rendering of a report as a dictionary, and the way back.
-/
namespace UsageMeter

def Component.render (c : Component) : Value :=
  .object [("vendor", .str c.vendor), ("version", .str c.version)]

def License.render (l : License) : Value :=
  .object [("customer", .str l.customer), ("type", .str l.type), ("validUntil", .str l.validUntil),
    ("unlimited", .bool l.unlimited),
    ("features", .object (l.features.entries.map fun (k, v) => (k, .str v))),
    ("raw", .str l.raw)]

def renderOption {α : Type} (f : α → Value) : Option α → Value
  | none => .null
  | some a => f a

def renderCounts (t : Table Int) : Value :=
  .object (t.entries.map fun (k, n) => (k, .object [("count", .int n)]))

/-- Web applications are listed by name. Members that are no names have no place among the names,
and where they stand then says nothing. -/
def Internals.render (i : Internals) : Value :=
  .object [("database", i.database.render),
    ("applicationServer", renderOption Component.render i.server),
    ("jdk", i.jdk.render), ("licenseKey", renderOption License.render i.license),
    ("commands", renderCounts i.commands), ("metrics", renderCounts i.metrics),
    ("webapps", .list i.webapps.toValues), ("telemetryEnabled", .bool i.enabled)]

def Product.render (p : Product) : Value :=
  .object [("name", .str p.name), ("version", .str p.version), ("edition", .str p.edition),
    ("internals", p.internals.render)]

def Report.render (r : Report) : Value :=
  .object [("installation", .str r.installation), ("product", r.product.render)]

/-- The entry of a dictionary under a text. -/
def Value.entry? (v : Value) (key : String) : Option Value :=
  match v with
  | .dictionary pairs => pairs.findSome? fun
    | (.str k, v) => if k = key then some v else none
    | _ => none
  | _ => none

def Value.bool? : Value → Option Bool
  | .bool b => some b
  | _ => none

def Value.int? : Value → Option Int
  | .int i => some i
  | _ => none

/-- The pairs of a dictionary with text keys. -/
def Value.fields? : Value → Option (List (String × Value))
  | .dictionary pairs => pairs.mapM fun (k, v) => k.text?.map fun k => (k, v)
  | _ => none

def Value.textAt? (v : Value) (key : String) : Option String :=
  v.entry? key >>= Value.text?

def Component.ofRendered? (v : Value) : Option Component := do
  return ⟨← v.textAt? "vendor", ← v.textAt? "version"⟩

def License.ofRendered? (v : Value) : Option License := do
  let features ← v.entry? "features" >>= Value.fields?
  let features ← features.mapM fun (k, f) => f.text?.map fun f => (k, f)
  return ⟨← v.textAt? "customer", ← v.textAt? "type", ← v.textAt? "validUntil",
    ← v.entry? "unlimited" >>= Value.bool?, Table.ofList features, ← v.textAt? "raw"⟩

def optionOfRendered? {α : Type} (f : Value → Option α) : Value → Option (Option α)
  | .null => some none
  | v => (f v).map some

def countsOfRendered? (v : Value) : Option (Table Int) := do
  let fields ← v.fields?
  let counts ← fields.mapM fun (k, c) => (c.entry? "count" >>= Value.int?).map fun n => (k, n)
  return Table.ofList counts

def Webapps.ofRendered? : Value → Option Webapps
  | .list items => some (.ofListed items)
  | _ => none

def Internals.ofRendered? (v : Value) : Option Internals := do
  return ⟨← v.entry? "database" >>= Component.ofRendered?,
    ← v.entry? "jdk" >>= Component.ofRendered?,
    ← v.entry? "applicationServer" >>= optionOfRendered? Component.ofRendered?,
    ← v.entry? "licenseKey" >>= optionOfRendered? License.ofRendered?,
    ← v.entry? "commands" >>= countsOfRendered?, ← v.entry? "metrics" >>= countsOfRendered?,
    ← v.entry? "webapps" >>= Webapps.ofRendered?, ← v.entry? "telemetryEnabled" >>= Value.bool?⟩

def Product.ofRendered? (v : Value) : Option Product := do
  return ⟨← v.textAt? "name", ← v.textAt? "version", ← v.textAt? "edition",
    ← v.entry? "internals" >>= Internals.ofRendered?⟩

def Report.ofRendered? (v : Value) : Option Report := do
  return ⟨← v.textAt? "installation", ← v.entry? "product" >>= Product.ofRendered?⟩

end UsageMeter
