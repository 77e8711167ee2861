import YieldRules.Modifier
import YieldRules.Subject
import YieldRules.Constructible
import YieldRules.YieldKind
import YieldRules.Feature
import YieldRules.Options

/-!
# Evaluation contexts

What an evaluation reads. Nothing is assumed about the answers: a view may
list a city of which it knows neither owner nor location, and requirement sets
may refer to each other in circles.
-/

namespace YieldRules

/-- The state of the world, by question. -/
structure WorldView where
  capital : PlayerId → Option CityId
  cities : PlayerId → List CityId
  units : PlayerId → List UnitId
  cityOwner : CityId → Option PlayerId
  cityLocation : CityId → Option Location
  purchasedPlots : CityId → List PlotIndex
  /-- Everything that the city has, hidden constructibles included. -/
  cityConstructibles : CityId → List ConstructibleId
  maintenance : CityId → DataName → Maintenance
  unitLocation : UnitId → Option Location
  unitIsCombat : UnitId → Bool
  plotIndex : Location → PlotIndex
  plotLocation : PlotIndex → Location
  /-- The constructibles on a plot, hidden ones excluded. -/
  visibleConstructibles : Location → List ConstructibleId
  isLake : Location → Bool
  isRiver : Location → Bool
  isNavigableRiver : Location → Bool
  isNaturalWonder : Location → Bool
  biome : Location → Option DataName
  feature : Location → Option Feature
  terrain : Location → Option DataName
  resource : Location → Option DataName
  route : Location → Option DataName
  currentAge : Option DataName

/-- Constructibles and their types. -/
structure Catalog where
  typeName : ConstructibleId → Option DataName
  definition : DataName → Option ConstructibleType
  /-- The types that a warehouse rule is linked to. -/
  linkedTypes : DataName → SortedSet DataName

/-- Requirement sets by name, and the tests that the game itself decides. -/
structure RequirementRules where
  requirementSet : DataName → Option RequirementSet
  satisfied : PlayerId → Subject → Requirement → Bool

structure Context where
  world : WorldView
  catalog : Catalog
  hasTag : DataName → String → Bool
  rules : RequirementRules
  options : Options

namespace Context

/-- The type of a constructible that stands somewhere. -/
def definitionOf (ctx : Context) (c : ConstructibleId) : Option ConstructibleType :=
  (ctx.catalog.typeName c).bind ctx.catalog.definition

/-- The purchased plots of a city with a visible constructible, each with its location. -/
def builtPlots (ctx : Context) (city : CityId) : List (PlotIndex × Location) :=
  ((ctx.world.purchasedPlots city).map fun p => (p, ctx.world.plotLocation p)).filter
    fun p => !(ctx.world.visibleConstructibles p.2).isEmpty

end Context

end YieldRules
