import YieldRules.World.Grid

/-!
# Looking things up in a world

The questions that a world answers about its players, cities, units, plots and
constructibles. Listings are in ascending order of their numbers. Where
several plots or types are listed under one location or name the first one
counts.
-/

namespace YieldRules.World

variable (w : World)

/-! ## Players -/

def capitalOf (player : PlayerId) : Option CityId :=
  (w.cities.keysWhere fun _ city => city.owner == player && city.capital).head?

def citiesOf (player : PlayerId) : List CityId :=
  w.cities.keysWhere fun _ city => city.owner == player

def unitsOf (player : PlayerId) : List UnitId :=
  w.units.keysWhere fun _ unit => unit.owner == player

/-! ## Cities and units -/

def purchasedPlots (city : CityId) : List PlotIndex :=
  match w.cities.get? city with
  | some state => state.purchasedPlots.map w.map.indexOf
  | none => []

def constructiblesOf (city : CityId) : List ConstructibleId :=
  w.constructibles.keysWhere fun _ c => c.city == some city

def maintenance (city : CityId) (typeName : DataName) : Maintenance :=
  (((w.cities.get? city).bind fun state => state.maintenance.get? typeName)).getD {}

def unitIsCombat (unit : UnitId) : Bool :=
  (w.units.get? unit).any (·.combat)

/-! ## Plots -/

def visibleAt (l : Location) : List ConstructibleId :=
  w.constructibles.keysWhere fun _ c => c.location == l && !c.hidden

def isLake (l : Location) : Bool :=
  (w.map.plotAt? l).any (·.lake)

def isRiver (l : Location) : Bool :=
  (w.map.plotAt? l).any (·.river != .none)

def isNavigableRiver (l : Location) : Bool :=
  (w.map.plotAt? l).any (·.river == .navigable)

def isNaturalWonder (l : Location) : Bool :=
  (w.map.plotAt? l).any (·.naturalWonder)

def biome (l : Location) : Option DataName :=
  (w.map.plotAt? l).bind (·.biome)

def feature (l : Location) : Option Feature :=
  (w.map.plotAt? l).bind (·.feature)

def terrain (l : Location) : Option DataName :=
  (w.map.plotAt? l).bind (·.terrain)

def resource (l : Location) : Option DataName :=
  (w.map.plotAt? l).bind (·.resource)

def route (l : Location) : Option DataName :=
  (w.map.plotAt? l).bind (·.route)

/-! ## Constructibles and records -/

def typeName (c : ConstructibleId) : Option DataName :=
  (w.constructibles.get? c).map (·.typeName)

def definition (name : DataName) : Option ConstructibleType :=
  w.constructibleTypes.find? fun t => t.name == name

def linkedTypes (rule : DataName) : SortedSet DataName :=
  (w.warehouseLinks.get? rule).getD {}

end YieldRules.World
