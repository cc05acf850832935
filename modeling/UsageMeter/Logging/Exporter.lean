import UsageMeter.Table
import UsageMeter.Text.Quoted

/-!
Settings of an exporter that sends log records to an endpoint.
-/
namespace UsageMeter.Logging

/-- How requests are compressed. -/
inductive Compression where
  | none | deflate | gzip
deriving DecidableEq

def Compression.name : Compression → String
  | .none => "none"
  | .deflate => "deflate"
  | .gzip => "gzip"

def Compression.ofName? (name : String) : Option Compression :=
  [Compression.none, .deflate, .gzip].find? fun c => c.name == name

/-- What an exporter is made with. -/
structure ExporterSettings where
  endpoint : String
  headers : Option (Table String)
  compression : Option Compression
  timeout : Option Int

/-- A compression that does not exist. -/
structure UnknownCompression where
  name : String
deriving DecidableEq

def UnknownCompression.message (e : UnknownCompression) : String :=
  Text.quoted e.name ++ " is not a valid Compression"

/-- The compression of exporters that name none. -/
def defaultCompression : String := "gzip"

/-- The settings for what a caller asks for; no headers are the same as an empty table of them. -/
def ExporterSettings.make (endpoint : String) (headers : Option (Table String))
    (compression : Option String) (timeout : Option Int) :
    Except UnknownCompression ExporterSettings :=
  let headers := headers.filter fun t => t.size != 0
  match compression with
  | .none => .ok ⟨endpoint, headers, .none, timeout⟩
  | some name =>
    match Compression.ofName? name with
    | some c => .ok ⟨endpoint, headers, some c, timeout⟩
    | .none => .error ⟨name⟩

end UsageMeter.Logging
