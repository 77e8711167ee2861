import YieldRules.Id

/-!
# Warehouse rules

A warehouse rule grants a city an amount of a yield for everything in it that
meets the condition of the rule. The database has a column for each kind of
condition; of the columns that are populated the first counts.
-/

namespace YieldRules.Warehouse

structure Rule where
  id : DataName
  yieldKind : Option DataName
  change : Float
  age : Option DataName
  lake : Bool
  minorRiver : Bool
  navigableRiver : Bool
  biome : Option DataName
  constructible : Option DataName
  feature : Option DataName
  featureClass : Option DataName
  naturalWonder : Bool
  resource : Bool
  route : Bool
  terrain : Option DataName
  terrainTag : Option String
  overbuilt : Bool
  district : Option DataName

inductive Condition where
  | lake
  | minorRiver
  | navigableRiver
  | biome (name : DataName)
  | constructible (name : DataName)
  | feature (name : DataName)
  | featureClass (name : DataName)
  | naturalWonder
  | resource
  | route
  | terrain (name : DataName)
  | terrainTag (tag : String)
  | overbuilt
  | district (name : DataName)
  deriving DecidableEq

/-- What a condition asks for by name. -/
def Condition.name? : Condition → Option String
  | biome s | constructible s | feature s | featureClass s | terrain s | terrainTag s
  | district s => some s
  | _ => none

namespace Rule

/-- A column that is a flag. -/
def flagged (flag : Bool) (condition : Condition) : Option Condition :=
  if flag then some condition else none

/-- A column that holds a name; an empty name populates nothing. -/
def named (column : Option String) (condition : String → Condition) : Option Condition :=
  (column.filter fun s => !s.isEmpty).map condition

/-- The columns in the order of their precedence. -/
def columns (r : Rule) : List (Option Condition) :=
  [flagged r.lake .lake, flagged r.minorRiver .minorRiver,
    flagged r.navigableRiver .navigableRiver, named r.biome .biome,
    named r.constructible .constructible, named r.feature .feature,
    named r.featureClass .featureClass, flagged r.naturalWonder .naturalWonder,
    flagged r.resource .resource, flagged r.route .route, named r.terrain .terrain,
    named r.terrainTag .terrainTag, flagged r.overbuilt .overbuilt, named r.district .district]

/-- The condition of a rule: its first populated column. -/
def condition? (r : Rule) : Option Condition :=
  r.columns.findSome? fun column => column

instance : Serial Rule where
  toNode r := .table (field "ID" r.id ++ field "YieldType" r.yieldKind ++
    field "YieldChange" r.change ++ field "Age" r.age ++ field "LakeInCity" r.lake ++
    field "MinorRiverInCity" r.minorRiver ++ field "NavigableRiverInCity" r.navigableRiver ++
    field "BiomeInCity" r.biome ++ field "ConstructibleInCity" r.constructible ++
    field "FeatureInCity" r.feature ++ field "FeatureClassInCity" r.featureClass ++
    field "NaturalWonderInCity" r.naturalWonder ++ field "ResourceInCity" r.resource ++
    field "RouteInCity" r.route ++ field "TerrainInCity" r.terrain ++
    field "TerrainTagInCity" r.terrainTag ++ field "Overbuilt" r.overbuilt ++
    field "DistrictInCity" r.district)
  ofNode? n := do
    let fields ← n.fields?
      ["ID", "YieldType", "YieldChange", "Age", "LakeInCity", "MinorRiverInCity",
        "NavigableRiverInCity", "BiomeInCity", "ConstructibleInCity", "FeatureInCity",
        "FeatureClassInCity", "NaturalWonderInCity", "ResourceInCity", "RouteInCity",
        "TerrainInCity", "TerrainTagInCity", "Overbuilt", "DistrictInCity"]
    return {
      id := ← fields.withDefault "ID" ""
      yieldKind := ← fields.withDefault "YieldType" none
      change := ← fields.withDefault "YieldChange" 0
      age := ← fields.withDefault "Age" none
      lake := ← fields.withDefault "LakeInCity" false
      minorRiver := ← fields.withDefault "MinorRiverInCity" false
      navigableRiver := ← fields.withDefault "NavigableRiverInCity" false
      biome := ← fields.withDefault "BiomeInCity" none
      constructible := ← fields.withDefault "ConstructibleInCity" none
      feature := ← fields.withDefault "FeatureInCity" none
      featureClass := ← fields.withDefault "FeatureClassInCity" none
      naturalWonder := ← fields.withDefault "NaturalWonderInCity" false
      resource := ← fields.withDefault "ResourceInCity" false
      route := ← fields.withDefault "RouteInCity" false
      terrain := ← fields.withDefault "TerrainInCity" none
      terrainTag := ← fields.withDefault "TerrainTagInCity" none
      overbuilt := ← fields.withDefault "Overbuilt" false
      district := ← fields.withDefault "DistrictInCity" none }

end Rule

end YieldRules.Warehouse
