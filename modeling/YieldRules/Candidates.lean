import YieldRules.Context

/-!
# Candidates

The subjects that a collection offers to a modifier, before any requirement is
tested. A city or a unit that the view does not know enough about is passed
over. A collection that is unknown, or that asks for a parent which is not
there, offers nothing.
-/

namespace YieldRules.Context

variable (ctx : Context)

/-- A city as a subject, if its location and its owner are known. -/
def citySubject? (city : CityId) : Option Subject := do
  let location ← ctx.world.cityLocation city
  let owner ← ctx.world.cityOwner city
  return .city city owner (ctx.world.plotIndex location)

/-- A unit as a subject, if its location is known. -/
def unitSubject? (owner : PlayerId) (unit : UnitId) : Option Subject := do
  let location ← ctx.world.unitLocation unit
  return .unit unit owner (ctx.world.plotIndex location)

/-- The purchased plots of a city. -/
def purchasedSubjects (city : CityId) : List Subject :=
  (ctx.world.purchasedPlots city).map (.plot city)

/-- The purchased plots of a city on which something is built. -/
def builtSubjects (city : CityId) : List Subject :=
  (ctx.builtPlots city).map fun p => .plot city p.1

/-- The candidates of a collection for a player. Another player's cities never receive an effect,
so all cities are the player's own; plot yields count a built plot twice. -/
def candidates (player : PlayerId) (parent : Option Subject) : Collection → List Subject
  | .playerCapital => (ctx.world.capital player).toList.filterMap ctx.citySubject?
  | .playerCities | .allCities => (ctx.world.cities player).filterMap ctx.citySubject?
  | .playerPlots => (ctx.world.cities player).flatMap fun city =>
      ctx.purchasedSubjects city ++ ctx.builtSubjects city
  | .owner => [.player player]
  | .cityPlots =>
    match parent with
    | some (.city city _ _) => ctx.purchasedSubjects city
    | _ => []
  | .allUnits | .playerUnits => (ctx.world.units player).filterMap (ctx.unitSubject? player)
  | .combatUnits =>
    ((ctx.world.units player).filter ctx.world.unitIsCombat).filterMap (ctx.unitSubject? player)
  | .occupiedCity | .citiesOfOwnerReligion | .playerCombat | .other _ => []

end YieldRules.Context
