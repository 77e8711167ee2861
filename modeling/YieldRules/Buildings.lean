import YieldRules.Context

/-!
# Buildings of cities

What stands in a city, hidden or not, as long as its type is defined. All
questions about the buildings of a city are put to one listing.
-/

namespace YieldRules

/-- A constructible that stands in a city, with the definition of its type. -/
structure Building where
  id : ConstructibleId
  definition : ConstructibleType

/-- Which constructibles a modifier counts. -/
inductive CountArgument where
  | tag (name : String)
  | typeName (name : DataName)
  deriving DecidableEq

/-- What the arguments ask to count: a tag if there is one, otherwise a type. -/
def Arguments.countArgument? (args : Arguments) : Option CountArgument :=
  match args.value? "Tag" with
  | some tag => some (.tag tag)
  | none => (args.value? "ConstructibleType").map .typeName

namespace Context

variable (ctx : Context)

def buildings (city : CityId) : List Building :=
  (ctx.world.cityConstructibles city).filterMap fun id =>
    (ctx.definitionOf id).map fun definition => ⟨id, definition⟩

/-- The first building of each city whose type carries a tag. -/
def buildingsWithTag (cities : List CityId) (tag : String) : List ConstructibleId :=
  cities.filterMap fun city =>
    ((ctx.buildings city).find? fun b => ctx.hasTag b.definition.name tag).map (·.id)

/-- The number of cities with a building that carries a tag. -/
def countWithTag (cities : List CityId) (tag : String) : Nat :=
  (ctx.buildingsWithTag cities tag).length

/-- The number of constructibles of a type, whether the type is defined or not. -/
def countOfType (cities : List CityId) (typeName : DataName) : Nat :=
  (cities.flatMap ctx.world.cityConstructibles).countP fun id =>
    ctx.catalog.typeName id == some typeName

/-- The number of things that a modifier counts in some cities. -/
def count (cities : List CityId) (m : Modifier) : Nat :=
  match m.arguments.countArgument? with
  | some (.tag name) => ctx.countWithTag cities name
  | some (.typeName name) => ctx.countOfType cities name
  | none => 0

/-- The number of things that a modifier counts in all cities of a player. -/
def countForPlayer (player : PlayerId) (m : Modifier) : Nat :=
  ctx.count (ctx.world.cities player) m

/-- The buildings of a city that may receive an adjacency bonus. -/
def buildingsWithAdjacency (city : CityId) (adjacency : DataName) : List ConstructibleId :=
  ((ctx.buildings city).filter fun b => b.definition.hasAdjacency adjacency).map (·.id)

end Context

end YieldRules
