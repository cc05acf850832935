import UsageMeter.Config.InstallationId
import UsageMeter.Table

/-!
Settings read from environment variables. White space around a text does not count, and a blank
variable acts like a missing one, but for the switch, which is missing only when its text is empty.
Main rule: reading fails exactly on a missing or malformed installation id, a missing product name
or an unknown truth word, in this order of precedence.
-/
namespace UsageMeter.Config

/-- The variables that are read. -/
inductive Variable where
  | installationId | productName | productVersion | productEdition | databaseVendor
  | databaseVersion | server | jdkVendor | jdkVersion | enabled | webapps
deriving DecidableEq

def Variable.name (v : Variable) : String :=
  "ENGINE_TELEMETRY_" ++ match v with
  | .installationId => "INSTALLATION_ID"
  | .productName => "PRODUCT_NAME"
  | .productVersion => "PRODUCT_VERSION"
  | .productEdition => "PRODUCT_EDITION"
  | .databaseVendor => "DB_VENDOR"
  | .databaseVersion => "DB_VERSION"
  | .server => "APP_SERVER"
  | .jdkVendor => "JDK_VENDOR"
  | .jdkVersion => "JDK_VERSION"
  | .enabled => "ENABLED"
  | .webapps => "WEBAPPS"

/-- What a configured engine knows about itself. -/
structure Settings where
  installationId : String
  productName : String
  productVersion : String
  productEdition : String
  databaseVendor : String
  databaseVersion : String
  server : Option String
  jdkVendor : String
  jdkVersion : String
  enabled : Bool
  webapps : List String
deriving DecidableEq

/-- Why settings cannot be read. -/
inductive SettingsError where
  | missing (v : Variable)
  | notInstallationId (text : String)
  | notTruthWord (text : String)
deriving DecidableEq

/-- The two kinds of errors. -/
inductive SettingsError.Kind where
  | missing
  | invalid
deriving DecidableEq

def SettingsError.kind : SettingsError → SettingsError.Kind
  | .missing _ => .missing
  | .notInstallationId _ | .notTruthWord _ => .invalid

def SettingsError.message : SettingsError → String
  | .missing v => "Environment variable '" ++ v.name ++ "' is required but missing"
  | .notInstallationId text =>
    "'" ++ Variable.installationId.name ++ "' must be a UUID, got '" ++ text ++ "'"
  | .notTruthWord text => "Cannot interpret '" ++ text ++ "' as boolean"

/-- The variables of an environment, by name. -/
abbrev Environment := String → Option String

/-- The environment of a table in which a variable may be present without a value. -/
def Environment.ofTable (t : Table (Option String)) : Environment :=
  fun name => (t.get? name).join

/-- The trimmed text of a variable, if it is not blank. -/
def Environment.text? (env : Environment) (v : Variable) : Option String :=
  match env v.name with
  | none => none
  | some s => if Text.isBlankText s then none else some (Text.trim s)

/-- The trimmed text of a variable that has to be there. -/
def Environment.require (env : Environment) (v : Variable) : Except SettingsError String :=
  match env.text? v with
  | some s => .ok s
  | none => .error (.missing v)

/-- The truth words in lower case; no letter outside ASCII has one of theirs as its lower case. -/
def truthWord? (s : String) : Option Bool :=
  let word := String.ofList ((Text.trim s).toList.map Char.toLower)
  if word ∈ ["true", "1", "yes", "y", "on"] then some true
  else if word ∈ ["false", "0", "no", "n", "off"] then some false
  else none

/-- The switch: off if its variable is missing or empty, else what its truth word says. -/
def Environment.switch (env : Environment) : Except SettingsError Bool :=
  match env Variable.enabled.name with
  | none => .ok false
  | some s =>
    if s = "" then .ok false
    else match truthWord? s with
      | some b => .ok b
      | none => .error (.notTruthWord s)

/-- The trimmed segments between commas that are not blank. -/
def segments (s : String) : List String :=
  ((Text.splitOn ',' s.toList).map fun cs => Text.trim (String.ofList cs)).filter (· ≠ "")

/-- Keeps the first of equal names. -/
def firsts : List String → List String
  | [] => []
  | x :: xs => x :: (firsts xs).filter (· ≠ x)

def Environment.nameList (env : Environment) (v : Variable) : List String :=
  match env.text? v with
  | none => []
  | some s => firsts (segments s)

/-- The edition of a product that does not name one. -/
def defaultEdition : String := "community"

def Environment.settings (env : Environment) : Except SettingsError Settings := do
  let id ← env.require .installationId
  if !isInstallationId id then throw (.notInstallationId id)
  let name ← env.require .productName
  let enabled ← env.switch
  return ⟨id, name, (env.text? .productVersion).getD "",
    (env.text? .productEdition).getD defaultEdition, (env.text? .databaseVendor).getD "",
    (env.text? .databaseVersion).getD "", env.text? .server, (env.text? .jdkVendor).getD "",
    (env.text? .jdkVersion).getD "", enabled, env.nameList .webapps⟩

/-- The variables that say what the settings say; a missing server leaves its variable out. -/
def Settings.variables (s : Settings) : List (String × String) :=
  [(Variable.installationId.name, s.installationId), (Variable.productName.name, s.productName),
    (Variable.productVersion.name, s.productVersion),
    (Variable.productEdition.name, s.productEdition),
    (Variable.databaseVendor.name, s.databaseVendor),
    (Variable.databaseVersion.name, s.databaseVersion)] ++
  (s.server.toList.map fun info => (Variable.server.name, info)) ++
  [(Variable.jdkVendor.name, s.jdkVendor), (Variable.jdkVersion.name, s.jdkVersion),
    (Variable.enabled.name, if s.enabled then "true" else "false"),
    (Variable.webapps.name, String.intercalate "," s.webapps)]

/-- The settings as an environment of their own. -/
def Settings.environment (s : Settings) : Environment :=
  fun name => s.variables.lookup name

end UsageMeter.Config
