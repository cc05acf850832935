import UsageMeter.Table
import UsageMeter.Text.Blank
import UsageMeter.Text.Quoted
import UsageMeter.Webapps

/-!
Usage reports: what is installed, on what it runs and how much it was used, at one point in time.
Reports hold no reference to live counters. Two reports are alike when all their parts are, whatever
the order in which counts and licence features are listed.
-/
namespace UsageMeter

/-- Vendor and version of a part of the environment. -/
structure Component where
  vendor : String
  version : String
deriving DecidableEq

/-- A licence, reported as it was supplied. -/
structure License where
  customer : String
  type : String
  validUntil : String
  unlimited : Bool
  features : Table String
  raw : String

/-- The environment of an engine and its use. -/
structure Internals where
  database : Component
  jdk : Component
  server : Option Component
  license : Option License
  commands : Table Int
  metrics : Table Int
  webapps : Webapps
  enabled : Bool

/-- The product and its internals. -/
structure Product where
  name : String
  version : String
  edition : String
  internals : Internals

/-- A full report. -/
structure Report where
  installation : String
  product : Product

def License.alike (a b : License) : Bool :=
  a.customer == b.customer && a.type == b.type && a.validUntil == b.validUntil &&
    a.unlimited == b.unlimited && a.features.alike (· == ·) b.features && a.raw == b.raw

def License.alike? : Option License → Option License → Bool
  | none, none => true
  | some a, some b => a.alike b
  | _, _ => false

def Internals.alike (a b : Internals) : Bool :=
  a.database == b.database && a.jdk == b.jdk && a.server == b.server &&
    License.alike? a.license b.license && a.commands.alike (· == ·) b.commands &&
    a.metrics.alike (· == ·) b.metrics && a.webapps.alike b.webapps && a.enabled == b.enabled

def Product.alike (a b : Product) : Bool :=
  a.name == b.name && a.version == b.version && a.edition == b.edition &&
    a.internals.alike b.internals

def Report.alike (a b : Report) : Bool :=
  a.installation == b.installation && a.product.alike b.product

def occursIn (part : List Char) : List Char → Bool
  | [] => part.isEmpty
  | c :: cs => part.isPrefixOf (c :: cs) || occursIn part cs

/-- The characters of a vendor's name: ASCII letters and white space. -/
def isVendorChar (c : Char) : Bool :=
  ('A' ≤ c && c ≤ 'Z') || ('a' ≤ c && c ≤ 'z') || Text.isBlank c

/-- A server described by its information text. The vendor is the first run of vendor characters,
wherever it starts, without surrounding white space; a text that has such a run and names WildFly
anywhere gives that vendor. -/
def Component.ofServerInfo (info : String) : Component :=
  let start := info.toList.dropWhile fun c => !isVendorChar c
  if start.isEmpty then ⟨"", info⟩
  else if occursIn "WildFly".toList info.toList then ⟨"WildFly", info⟩
  else ⟨Text.trim (String.ofList (start.takeWhile isVendorChar)), info⟩

end UsageMeter
