import YieldRules.World.Predicates
import YieldRules.Context

/-!
# A world as an evaluation context

A world answers every question that an evaluation asks.
-/

namespace YieldRules.World

variable (w : World)

def view : WorldView where
  capital := w.capitalOf
  cities := w.citiesOf
  units := w.unitsOf
  cityOwner city := (w.cities.get? city).map (·.owner)
  cityLocation city := (w.cities.get? city).map (·.location)
  purchasedPlots := w.purchasedPlots
  cityConstructibles := w.constructiblesOf
  maintenance := w.maintenance
  unitLocation unit := (w.units.get? unit).map (·.location)
  unitIsCombat := w.unitIsCombat
  plotIndex := w.map.indexOf
  plotLocation := w.map.locationOf
  visibleConstructibles := w.visibleAt
  isLake := w.isLake
  isRiver := w.isRiver
  isNavigableRiver := w.isNavigableRiver
  isNaturalWonder := w.isNaturalWonder
  biome := w.biome
  feature := w.feature
  terrain := w.terrain
  resource := w.resource
  route := w.route
  currentAge := w.currentAge

def catalog : Catalog where
  typeName := w.typeName
  definition := w.definition
  linkedTypes := w.linkedTypes

def rules : RequirementRules where
  requirementSet := w.requirementSets.get?
  satisfied := w.satisfied

def context (options : Options) : Context where
  world := w.view
  catalog := w.catalog
  hasTag := w.tags.has
  rules := w.rules
  options := options

end YieldRules.World
