import UsageMeter.Config.Settings
import UsageMeter.Service.Supplied

/-!
Services made from settings.
-/
namespace UsageMeter

/-- The static data that settings give; there is no licence, and no server for an empty text. -/
def StaticData.ofSettings (s : Config.Settings) : StaticData :=
  ⟨.str s.installationId, .str s.productName, s.productVersion, s.productEdition,
    ⟨s.databaseVendor, s.databaseVersion⟩, ⟨s.jdkVendor, s.jdkVersion⟩,
    (s.server.filter (· ≠ "")).map Component.ofServerInfo, none⟩

def Facts.ofSettings (s : Config.Settings) : Facts :=
  ⟨.ofNames s.webapps, s.enabled⟩

/-- A service with new registries and the given facts. -/
def Hub.addService (h : Hub) (static : StaticData) (facts : Facts) : Hub × Service :=
  (h.addFacts facts).1.makeService static none none (some (h.addFacts facts).2)

/-- The new parts come after those that were there. -/
theorem Hub.addService_eq (h : Hub) (static : StaticData) (facts : Facts) :
    h.addService static facts =
      (⟨h.registries ++ [.emptyTracker, .empty Registry.metricKind], h.facts ++ [facts]⟩,
        ⟨static, h.registries.length, h.registries.length + 1, h.facts.length⟩) := by
  simp [addService, makeService, suppliedRegistry, suppliedFacts, addRegistry, addFacts]

def Hub.addConfigured (h : Hub) (s : Config.Settings) : Hub × Service :=
  h.addService (.ofSettings s) (.ofSettings s)

end UsageMeter
