import UsageMeter.Logging.Record
import UsageMeter.Logging.Resource

/-!
The library that setups hand their records to. How it keeps attributes, how many of them it carries
and what it ends together with a processor is its own business, so that it stands here as a
parameter.
-/
namespace UsageMeter.Logging

/-- What takes delivered records away: one that a caller gives, known by a number, or one that a
setup makes for an address. -/
inductive Exporter where
  | given (number : Nat)
  | sending (setup : Nat) (endpoint : String)
deriving DecidableEq

/-- What passes records to an exporter: one that a caller gives, or one that a setup makes around an
exporter. -/
inductive Processor where
  | given (number : Nat) (exporter : Exporter)
  | batching (setup : Nat) (exporter : Exporter)
deriving DecidableEq

def Processor.exporter : Processor → Exporter
  | .given _ x | .batching _ x => x

/-- A library: the resource that it makes of attributes, the attributes and the severity with which
it delivers a record, and whether shutting one processor down ends what comes through another. -/
structure Sdk where
  resource : Table Value → Resource
  attributes : Record → Table Value
  severity : String → String
  ends : Processor → Processor → Bool

/-- The resource of an installation. -/
def resourceOf (sdk : Sdk) (s : StaticData) (extra : List (String × Value)) : Resource :=
  sdk.resource (installationAttributes s extra)

/-- A record as it was delivered. -/
structure Delivered where
  body : Value
  severity : String
  scope : String
  attributes : Table Value

/-- A structured record as it is delivered. -/
def Record.delivered (sdk : Sdk) (r : Record) : Delivered :=
  ⟨r.get "msg", sdk.severity (r.get "levelname").shown, (r.get "name").shown, sdk.attributes r⟩

theorem Record.attributes_delivered (sdk : Sdk) (r : Record) :
    (r.delivered sdk).attributes = sdk.attributes r :=
  rfl

end UsageMeter.Logging
