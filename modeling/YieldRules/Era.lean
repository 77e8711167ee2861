import YieldRules.Context

/-!
# Eras

Whether a constructible type may be used in the current age, and whether it
may be part of a quarter. Tags lift a type out of its age or out of quarters.
-/

namespace YieldRules

def agelessTag : String :=
  "AGELESS"

def fullTileTag : String :=
  "FULL_TILE"

def ignoresPlacementCapTag : String :=
  "IGNORE_DISTRICT_PLACEMENT_CAP"

/-- Tags are asked for by type and name. -/
abbrev TagTest := DataName → String → Bool

def TagTest.isAgeless (hasTag : TagTest) (typeName : DataName) : Bool :=
  hasTag typeName agelessTag

def TagTest.isFullTile (hasTag : TagTest) (typeName : DataName) : Bool :=
  hasTag typeName fullTileTag

namespace Context

variable (ctx : Context)

/-- The current age; an empty name is none. -/
def currentAge? : Option DataName :=
  ctx.world.currentAge.filter fun age => !age.isEmpty

/-- An ageless type is valid at all times, any other one in its own age. -/
def isValidInEra (definition : ConstructibleType) : Bool :=
  TagTest.isAgeless ctx.hasTag definition.name ||
    match ctx.currentAge? with
    | some age => definition.age == some age
    | none => false

/-- A type that ignores the placement cap never makes a quarter. -/
def isValidInQuarter (definition : ConstructibleType) : Bool :=
  !ctx.hasTag definition.name ignoresPlacementCapTag && ctx.isValidInEra definition

end Context

end YieldRules
