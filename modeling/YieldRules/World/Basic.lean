import YieldRules.Modifier
import YieldRules.Constructible
import YieldRules.Warehouse.Rule
import YieldRules.YieldKind
import YieldRules.Feature
import YieldRules.Tags

/-!
# Worlds

A world holds the state of a game, as far as yields depend on it, together
with the records of the game database. Every field of it may be left out of a
document.
-/

namespace YieldRules

inductive River where
  | none
  | minor
  | navigable
  deriving DecidableEq

namespace River

def name : River → String
  | none => "none"
  | minor => "minor"
  | navigable => "navigable"

def ofName? (s : String) : Option River :=
  [none, minor, navigable].find? fun r => r.name = s

instance : Serial River where
  toNode r := .text r.name
  ofNode? n := do ofName? (← n.name?)

end River

/-- The land of one plot. -/
structure PlotState where
  location : Location
  terrain : Option DataName
  biome : Option DataName
  feature : Option Feature
  resource : Option DataName
  route : Option DataName
  lake : Bool
  river : River
  naturalWonder : Bool
  deriving DecidableEq

/-- Where records stand that give no location. -/
def Location.origin : Location :=
  ⟨0, 0⟩

/-- Whom records belong to that give no owner. -/
def PlayerId.first : PlayerId :=
  ⟨0⟩

instance : Serial PlotState where
  toNode p := .table (field "location" p.location ++ field "terrain" p.terrain ++
    field "biome" p.biome ++ field "feature" p.feature ++ field "resource" p.resource ++
    field "route" p.route ++ field "lake" p.lake ++ field "river" p.river ++
    field "natural_wonder" p.naturalWonder)
  ofNode? n := do
    let fields ← n.fields?
      ["location", "terrain", "biome", "feature", "resource", "route", "lake", "river",
        "natural_wonder"]
    return {
      location := ← fields.withDefault "location" .origin
      terrain := ← fields.withDefault "terrain" none
      biome := ← fields.withDefault "biome" none
      feature := ← fields.withDefault "feature" none
      resource := ← fields.withDefault "resource" none
      route := ← fields.withDefault "route" none
      lake := ← fields.withDefault "lake" false
      river := ← fields.withDefault "river" .none
      naturalWonder := ← fields.withDefault "natural_wonder" false }

/-- The map. Plots that nothing is known about need not be listed. -/
structure WorldMap where
  width : UInt32
  height : UInt32
  plots : List PlotState

namespace WorldMap

def empty : WorldMap :=
  ⟨0, 0, []⟩

instance : Serial WorldMap where
  toNode m := .table (field "width" m.width ++ field "height" m.height ++ field "plots" m.plots)
  ofNode? n := do
    let fields ← n.fields? ["width", "height", "plots"]
    return {
      width := ← fields.withDefault "width" 0
      height := ← fields.withDefault "height" 0
      plots := ← fields.withDefault "plots" [] }

end WorldMap

structure CityState where
  owner : PlayerId
  name : String
  location : Location
  capital : Bool
  purchasedPlots : List Location
  /-- What a constructible type costs in this city. -/
  maintenance : SortedMap DataName Maintenance

instance : Serial CityState where
  toNode c := .table (field "owner" c.owner ++ field "name" c.name ++
    field "location" c.location ++ field "capital" c.capital ++
    field "purchased_plots" c.purchasedPlots ++ field "maintenance" c.maintenance)
  ofNode? n := do
    let fields ← n.fields?
      ["owner", "name", "location", "capital", "purchased_plots", "maintenance"]
    return {
      owner := ← fields.withDefault "owner" .first
      name := ← fields.withDefault "name" ""
      location := ← fields.withDefault "location" .origin
      capital := ← fields.withDefault "capital" false
      purchasedPlots := ← fields.withDefault "purchased_plots" []
      maintenance := ← fields.withDefault "maintenance" {} }

structure UnitState where
  owner : PlayerId
  unitType : DataName
  location : Location
  combat : Bool
  deriving DecidableEq

instance : Serial UnitState where
  toNode u := .table (field "owner" u.owner ++ field "unit_type" u.unitType ++
    field "location" u.location ++ field "combat" u.combat)
  ofNode? n := do
    let fields ← n.fields? ["owner", "unit_type", "location", "combat"]
    return {
      owner := ← fields.withDefault "owner" .first
      unitType := ← fields.withDefault "unit_type" ""
      location := ← fields.withDefault "location" .origin
      combat := ← fields.withDefault "combat" false }

/-- A constructible that stands on the map. -/
structure ConstructibleState where
  typeName : DataName
  location : Location
  city : Option CityId
  hidden : Bool
  deriving DecidableEq

instance : Serial ConstructibleState where
  toNode c := .table (field "constructible_type" c.typeName ++ field "location" c.location ++
    field "city" c.city ++ field "hidden" c.hidden)
  ofNode? n := do
    let fields ← n.fields? ["constructible_type", "location", "city", "hidden"]
    return {
      typeName := ← fields.withDefault "constructible_type" ""
      location := ← fields.withDefault "location" .origin
      city := ← fields.withDefault "city" none
      hidden := ← fields.withDefault "hidden" false }

structure World where
  localPlayer : PlayerId
  currentAge : Option DataName
  map : WorldMap
  cities : SortedMap CityId CityState
  units : SortedMap UnitId UnitState
  constructibles : SortedMap ConstructibleId ConstructibleState
  constructibleTypes : List ConstructibleType
  /-- The constructible types that each warehouse rule is linked to. -/
  warehouseLinks : SortedMap DataName (SortedSet DataName)
  tags : Tags
  requirementSets : SortedMap DataName RequirementSet
  modifiers : List Modifier
  warehouseRules : List Warehouse.Rule

/-- A world with nothing in it. -/
def World.empty : World where
  localPlayer := .first
  currentAge := none
  map := .empty
  cities := {}
  units := {}
  constructibles := {}
  constructibleTypes := []
  warehouseLinks := {}
  tags := {}
  requirementSets := {}
  modifiers := []
  warehouseRules := []

instance : Serial World where
  toNode w := .table (field "local_player" w.localPlayer ++ field "current_age" w.currentAge ++
    field "map" w.map ++ field "cities" w.cities ++ field "units" w.units ++
    field "constructibles" w.constructibles ++
    field "constructible_types" w.constructibleTypes ++
    field "warehouse_links" w.warehouseLinks ++ field "tags" w.tags ++
    field "requirement_sets" w.requirementSets ++ field "modifiers" w.modifiers ++
    field "warehouse_yield_changes" w.warehouseRules)
  ofNode? n := do
    let fields ← n.fields?
      ["local_player", "current_age", "map", "cities", "units", "constructibles",
        "constructible_types", "warehouse_links", "tags", "requirement_sets", "modifiers",
        "warehouse_yield_changes"]
    return {
      localPlayer := ← fields.withDefault "local_player" .first
      currentAge := ← fields.withDefault "current_age" none
      map := ← fields.withDefault "map" .empty
      cities := ← fields.withDefault "cities" {}
      units := ← fields.withDefault "units" {}
      constructibles := ← fields.withDefault "constructibles" {}
      constructibleTypes := ← fields.withDefault "constructible_types" []
      warehouseLinks := ← fields.withDefault "warehouse_links" {}
      tags := ← fields.withDefault "tags" {}
      requirementSets := ← fields.withDefault "requirement_sets" {}
      modifiers := ← fields.withDefault "modifiers" []
      warehouseRules := ← fields.withDefault "warehouse_yield_changes" [] }

end YieldRules
