import UsageMeter.Facts
import UsageMeter.Report.Basic

/-!
What an engine knows about itself from its start, and the making of a report from that, the counts
and the facts.
-/
namespace UsageMeter

/-- Identity and environment of an installation. The two identities may be any value. -/
structure StaticData where
  installation : Value
  productName : Value
  productVersion : String
  productEdition : String
  database : Component
  jdk : Component
  server : Option Component
  license : Option License

/-- The identities that a report needs. -/
inductive Identity where
  | installation | productName
deriving DecidableEq

/-- What an identity is called. -/
def Identity.label : Identity → String
  | .installation => "installation id"
  | .productName => "product name"

/-- Why no report can be made. -/
inductive IdentityError where
  | notText (identity : Identity) (kind : String)
  | blank (identity : Identity)
deriving DecidableEq

def IdentityError.message : IdentityError → String
  | .notText identity kind =>
    "Cannot assemble telemetry data: " ++ identity.label ++ " must be a string, got " ++ kind
  | .blank identity =>
    "Cannot assemble telemetry data: " ++ identity.label ++ " is not configured"

/-- An identity has to be a text with something in it. -/
def requireText (identity : Identity) (v : Value) : Except IdentityError String :=
  match v with
  | .str s => if Text.isBlankText s then .error (.blank identity) else .ok s
  | v => .error (.notText identity v.kind)

/-- Counts as a report lists them. -/
def Table.counts (t : Table Nat) : Table Int :=
  t.map Int.ofNat

/-- The report for some counts and facts. -/
def StaticData.report (s : StaticData) (commands metrics : Table Nat) (facts : Facts) :
    Except IdentityError Report := do
  let installation ← requireText .installation s.installation
  let name ← requireText .productName s.productName
  return ⟨installation, ⟨name, s.productVersion, s.productEdition,
    ⟨s.database, s.jdk, s.server, s.license, commands.counts, metrics.counts, facts.webapps,
      facts.enabled⟩⟩⟩

def StaticData.withLicense (s : StaticData) (license : Option License) : StaticData :=
  ⟨s.installation, s.productName, s.productVersion, s.productEdition, s.database, s.jdk, s.server,
    license⟩

def StaticData.withServer (s : StaticData) (server : Option Component) : StaticData :=
  ⟨s.installation, s.productName, s.productVersion, s.productEdition, s.database, s.jdk, server,
    s.license⟩

end UsageMeter
