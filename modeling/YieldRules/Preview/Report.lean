import YieldRules.Resolution
import YieldRules.Upkeep
import YieldRules.Warehouse.Amount
import YieldRules.World.View
import YieldRules.Decimal.Signed
import YieldRules.Text.Column

/-!
# Preview reports

What a player gets out of the modifiers and the warehouse rules of a world, as
lines of text. Each section is a heading and one block of lines for each
modifier or city, and no block depends on another.
-/

namespace YieldRules.Preview

open Text Decimal

variable (ctx : Context) (player : PlayerId)

/-! ## Modifiers -/

/-- The line of a city whose upkeep a modifier lowers. -/
def savingLine (m : Modifier) (city : CityId) : String :=
  let saving := ctx.citySaving city m
  "      city " ++ padRight 4 (toString city.raw) ++ " gold " ++ signed saving.gold ++
    "  happiness " ++ signed saving.happiness

/-- The line of a modifier that counts things. -/
def countLine (m : Modifier) : String :=
  let count := ctx.countForPlayer player m
  match m.arguments.delta (Float.ofNat count) 0 with
  | .ok delta => s!"      {count} counted -> " ++ signed delta
  | .error e => s!"      {count} counted, no magnitude: {e.message}"

/-- The lines on what a modifier does to its subjects. -/
def effectLines (m : Modifier) (subjects : List Subject) : List String :=
  if (Channels.ofArguments m.arguments).any then
    (subjects.filterMap Subject.city?).map (savingLine ctx m)
  else if m.arguments.countArgument?.isSome then
    [countLine ctx player m]
  else
    match m.arguments.delta 1 0 with
    | .ok perSubject => ["      " ++ signed perSubject ++ " each"]
    | .error _ => []

/-- The block of a modifier: how many subjects it reaches, and what it does to them. -/
def modifierBlock (m : Modifier) : List String :=
  let label := "  " ++ padRight 32 m.label
  match ctx.subjects player m none with
  | .error e => [s!"{label} error: {e.message}"]
  | .ok subjects =>
    s!"{label} {m.collection.name} -> {subjects.length} subject(s)" ::
      effectLines ctx player m subjects

def modifierSection (modifiers : List Modifier) : List String :=
  s!"Modifiers (player {player.index})" :: modifiers.flatMap (modifierBlock ctx player)

/-! ## Warehouse rules -/

/-- The line of a rule in a city. -/
def ruleLine (city : CityId) (r : Warehouse.Rule) : String :=
  let linked := (r.linkedBuildings ctx city).length
  "      " ++ padRight 24 r.id ++ " " ++ padRight 16 (r.yieldKind.getD "-") ++ " " ++
    signed (r.amount ctx city) ++ s!"  ({linked} linked structure(s))"

/-- The block of a city: its name and one line for each rule. -/
def cityBlock (nameOf : CityId → String) (rules : List Warehouse.Rule) (city : CityId) :
    List String :=
  s!"  city {city.raw} {nameOf city}" :: rules.map (ruleLine ctx city)

def warehouseSection (nameOf : CityId → String) (rules : List Warehouse.Rule) : List String :=
  s!"Warehouse yields (player {player.index})" ::
    (ctx.world.cities player).flatMap (cityBlock ctx nameOf rules)

/-! ## Reports -/

/-- The parts of a report that can be asked for. -/
inductive Command where
  | modifiers
  | warehouse
  | everything
  deriving DecidableEq

/-- The lines of a report on a world. -/
def report (w : World) (options : Options) (command : Command) : List String :=
  let ctx := w.context options
  let nameOf (city : CityId) := ((w.cities.get? city).map (·.name)).getD "?"
  let modifiers := modifierSection ctx player w.modifiers
  let warehouse := warehouseSection ctx player nameOf w.warehouseRules
  match command with
  | .modifiers => modifiers
  | .warehouse => warehouse
  | .everything => modifiers ++ [""] ++ warehouse

/-- Lines as a text: each one ends with a break. -/
def joinLines (lines : List String) : String :=
  String.join (lines.map (· ++ "\n"))

/-- The player to evaluate for: the one asked for, the one configured, or the local player. -/
def chosenPlayer (asked : Option PlayerId) (configured : Option PlayerId) (w : World) : PlayerId :=
  (asked <|> configured).getD w.localPlayer

end YieldRules.Preview
