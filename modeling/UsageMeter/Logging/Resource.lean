import UsageMeter.Service.Static

/-!
Resources: the attributes that tell where telemetry comes from.
-/
namespace UsageMeter.Logging

def serviceAttribute : String := "service.name"

def instanceAttribute : String := "service.instance.id"

abbrev Resource := Table Value

/-- An attribute that is left out for an empty text. -/
def textAttribute (name text : String) : List (String × Value) :=
  if text = "" then [] else [(name, .str text)]

/-- The attributes of an installation; further attributes take precedence over its own. -/
def installationAttributes (s : StaticData) (extra : List (String × Value)) : Table Value :=
  Table.ofList ([(serviceAttribute, s.productName), (instanceAttribute, s.installation)] ++
    textAttribute "service.version" s.productVersion ++
    textAttribute "engine.product.edition" s.productEdition ++ extra)

end UsageMeter.Logging
