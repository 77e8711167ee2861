import YieldRules.Warehouse.Rule
import YieldRules.Buildings

/-!
# Warehouse amounts

A rule is worth its change times a count. A condition on land counts purchased
plots with something visible built on them; a condition on constructibles
counts those of the city. Two conditions are known but count nothing.
-/

namespace YieldRules.Warehouse

/-- Whether a plot meets a condition on land. -/
def Condition.holdsAt (ctx : Context) (l : Location) : Condition → Bool
  | lake => ctx.world.isLake l
  | minorRiver => ctx.world.isRiver l && !ctx.world.isNavigableRiver l
  | navigableRiver => ctx.world.isNavigableRiver l
  | biome name => ctx.world.biome l == some name
  | feature name => (ctx.world.feature l).any (·.name == name)
  | featureClass name => (ctx.world.feature l).any (·.featureClass == some name)
  | naturalWonder => ctx.world.isNaturalWonder l
  | resource => (ctx.world.resource l).isSome
  | route => (ctx.world.route l).isSome
  | terrain name => ctx.world.terrain l == some name
  | terrainTag tag => (ctx.world.terrain l).any (ctx.hasTag · tag)
  | constructible _ | overbuilt | district _ => false

/-- How often a city meets a condition. -/
def Condition.count (ctx : Context) (city : CityId) : Condition → Nat
  | constructible name => ctx.countOfType [city] name
  | condition => (ctx.builtPlots city).countP fun p => condition.holdsAt ctx p.2

/-- The yield that a rule grants a city. -/
def Rule.amount (ctx : Context) (city : CityId) (r : Rule) : Float :=
  match r.condition? with
  | none => 0
  | some condition => Float.ofNat (condition.count ctx city) * r.change

/-- The buildings of a city whose type is linked to a rule. -/
def Rule.linkedBuildings (ctx : Context) (city : CityId) (r : Rule) : List ConstructibleId :=
  let types := ctx.catalog.linkedTypes r.id
  ((ctx.buildings city).filter fun b => types.contains b.definition.name).map (·.id)

end YieldRules.Warehouse
