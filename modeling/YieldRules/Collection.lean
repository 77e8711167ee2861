import YieldRules.Id

/-!
# Collections

A collection says where the candidate subjects of a modifier come from.
-/

namespace YieldRules

inductive Collection where
  | playerCapital
  | playerCities
  | allCities
  | playerPlots
  | owner
  /-- The plots of the city that is the parent. -/
  | cityPlots
  | allUnits
  | playerUnits
  | combatUnits
  /-- The city that the parent unit occupies. -/
  | occupiedCity
  | citiesOfOwnerReligion
  | playerCombat
  | other (name : String)
  deriving DecidableEq

namespace Collection

def name : Collection → String
  | playerCapital => "COLLECTION_PLAYER_CAPITAL_CITY"
  | playerCities => "COLLECTION_PLAYER_CITIES"
  | allCities => "COLLECTION_ALL_CITIES"
  | playerPlots => "COLLECTION_PLAYER_PLOT_YIELDS"
  | owner => "COLLECTION_OWNER"
  | cityPlots => "COLLECTION_CITY_PLOT_YIELDS"
  | allUnits => "COLLECTION_ALL_UNITS"
  | playerUnits => "COLLECTION_PLAYER_UNITS"
  | combatUnits => "COLLECTION_UNIT_COMBAT"
  | occupiedCity => "COLLECTION_UNIT_OCCUPIED_CITY"
  | citiesOfOwnerReligion => "COLLECTION_CITIES_FOLLOWING_OWNER_RELIGION"
  | playerCombat => "COLLECTION_PLAYER_COMBAT"
  | other s => s

/-- The collections with a name of their own. -/
def known : List Collection :=
  [playerCapital, playerCities, allCities, playerPlots, owner, cityPlots, allUnits, playerUnits,
    combatUnits, occupiedCity, citiesOfOwnerReligion, playerCombat]

def ofName (s : String) : Collection :=
  (known.find? fun c => c.name = s).getD (other s)

instance : Serial Collection where
  toNode c := .text c.name
  ofNode? n := (ofNode? n).map ofName

end Collection

end YieldRules
