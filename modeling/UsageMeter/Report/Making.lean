import UsageMeter.Report.Basic

/-!
Parts of reports made from mappings. Someone who hands over a mapping may go on changing it, so that
a report holds tables of its own; a table that cannot be changed is taken as it is, but for the
features of a licence, which are always copied.
-/
namespace UsageMeter

/-- Named values that are handed over: in a mapping that may still change, or in a table. -/
inductive Mapping (α : Type) where
  | plain (t : Table α)
  | frozen (t : Table α)

namespace Mapping
variable {α : Type}

def items : Mapping α → List (String × α)
  | .plain t => t.entries
  | .frozen t => t.entries

/-- A new table of the items. -/
def copied (m : Mapping α) : Table α :=
  Table.ofList m.items

/-- The table that is there, else a new one. -/
def settled : Mapping α → Table α
  | .plain t => (plain t).copied
  | .frozen t => t

end Mapping

/-- The licence of a customer. -/
def License.made (customer type validUntil : String) (unlimited : Bool) (features : Mapping String)
    (raw : String) : License :=
  ⟨customer, type, validUntil, unlimited, features.copied, raw⟩

/-- The internals with some counts. -/
def Internals.made (database jdk : Component) (server : Option Component)
    (license : Option License) (commands metrics : Mapping Int) (webapps : Webapps)
    (enabled : Bool) : Internals :=
  ⟨database, jdk, server, license, commands.settled, metrics.settled, webapps, enabled⟩

end UsageMeter
