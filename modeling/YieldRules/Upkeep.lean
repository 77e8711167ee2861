import YieldRules.Buildings
import YieldRules.Magnitude

/-!
# Upkeep savings

A modifier may lower what constructibles cost in gold and in happiness. The
two channels are kept apart: each has its own flag, its own cost and its own
sum.
-/

namespace YieldRules

/-- The channels that a modifier touches. -/
structure Channels where
  gold : Bool
  happiness : Bool
  deriving DecidableEq

namespace Channels

def ofArguments (args : Arguments) : Channels :=
  ⟨args.flag "Gold", args.flag "Happiness"⟩

def includes (c : Channels) : YieldKind → Bool
  | .gold => c.gold
  | .happiness => c.happiness
  | _ => false

def any (c : Channels) : Bool :=
  c.gold || c.happiness

end Channels

structure Saving where
  gold : Float
  happiness : Float

namespace Saving

def zero : Saving :=
  ⟨0, 0⟩

def add (s t : Saving) : Saving :=
  ⟨s.gold + t.gold, s.happiness + t.happiness⟩

/-- Add to the channel of a yield. -/
def addTo (s : Saving) (y : YieldKind) (delta : Float) : Saving :=
  match y with
  | .gold => { s with gold := s.gold + delta }
  | .happiness => { s with happiness := s.happiness + delta }
  | _ => s

/-- Add the saving on one amount of upkeep, unless its channel is closed or it costs nothing. -/
def addEntry (channels : Channels) (m : Magnitude Float) (s : Saving)
    (entry : YieldKind × Float) : Saving :=
  let cost := -entry.2
  if cost == 0 || !channels.includes entry.1 then s
  else
    match m.delta 1 cost with
    | .ok delta => s.addTo entry.1 delta
    | .error _ => s

end Saving

namespace Context

variable (ctx : Context)

/-- The upkeep that a modifier saves on one constructible of a type. -/
def saving (city : CityId) (definition : ConstructibleType) (m : Modifier) : Saving :=
  let channels := Channels.ofArguments m.arguments
  if channels.any then
    match m.arguments.magnitude with
    | .ok magnitude =>
      (ctx.world.maintenance city definition.name).entries.foldl
        (Saving.addEntry channels magnitude) .zero
    | .error _ => .zero
  else
    .zero

/-- The upkeep that a modifier saves on all buildings of a city. -/
def citySaving (city : CityId) (m : Modifier) : Saving :=
  ((ctx.buildings city).map fun b => ctx.saving city b.definition m).foldl .add .zero

end Context

end YieldRules
