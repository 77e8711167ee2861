import YieldRules.World.Grid

/-!
# Defects of worlds

A world can be evaluated when its map has a size that every plot can be
numbered in, everything on the map lies within its bounds, every constructible
belongs to a city that exists, and every requirement set that gives its own
name is stored under it. The first violation in this order is the defect of
the world.
-/

namespace YieldRules

/-- What a location belongs to. -/
inductive Placed where
  | plot
  | city (id : CityId)
  | purchasedPlot (id : CityId)
  | unit (id : UnitId)
  | constructible (id : ConstructibleId)
  deriving DecidableEq

def Placed.describe : Placed → String
  | plot => "plot"
  | city i => s!"city {i.raw}"
  | purchasedPlot i => s!"purchased plot of city {i.raw}"
  | unit i => s!"unit {i.raw}"
  | constructible i => s!"constructible {i.raw}"

inductive Defect where
  | mapSize (width height : UInt32)
  | offMap (what : Placed) (location : Location) (width height : UInt32)
  | unknownCity (city : CityId) (constructible : ConstructibleId)
  | renamedSet (name : DataName)
  deriving DecidableEq

namespace Defect

/-- A size or a location is wrong, as opposed to a name or a number that refers to nothing. -/
def isOutOfBounds : Defect → Bool
  | mapSize .. | offMap .. => true
  | unknownCity .. | renamedSet _ => false

def message : Defect → String
  | mapSize width height => s!"out of map bounds: map size {width}x{height}"
  | offMap what l width height =>
    s!"out of map bounds: {what.describe} at ({l.x}, {l.y}) on a {width}x{height} map"
  | unknownCity city constructible =>
    s!"missing referenced id: city {city.raw} of constructible {constructible.raw}"
  | renamedSet name => s!"missing referenced id: requirement set {name} declares a different id"

end Defect

namespace WorldMap

/-- Both sides are positive and fit into a signed word, and plots can be numbered. -/
def hasValidSize (m : WorldMap) : Bool :=
  let width := m.width.toNat
  let height := m.height.toNat
  0 < width && 0 < height && width < coordinateLimit && height < coordinateLimit &&
    width * height < UInt32.size

end WorldMap

namespace World

variable (w : World)

/-- Every location in a world, in the order in which they are checked. -/
def placements : List (Placed × Location) :=
  w.map.plots.map (fun plot => (.plot, plot.location)) ++
  w.cities.entries.flatMap (fun e =>
    (.city e.1, e.2.location) :: e.2.purchasedPlots.map fun l => (.purchasedPlot e.1, l)) ++
  w.units.entries.map (fun e => (.unit e.1, e.2.location)) ++
  w.constructibles.entries.map fun e => (.constructible e.1, e.2.location)

def sizeDefect? : Option Defect :=
  if w.map.hasValidSize then none else some (.mapSize w.map.width w.map.height)

def placementDefect? : Option Defect :=
  w.placements.findSome? fun p =>
    if w.map.contains p.2 then none else some (.offMap p.1 p.2 w.map.width w.map.height)

def cityDefect? : Option Defect :=
  w.constructibles.entries.findSome? fun e =>
    match e.2.city with
    | some city => if w.cities.contains city then none else some (.unknownCity city e.1)
    | none => none

def setDefect? : Option Defect :=
  w.requirementSets.entries.findSome? fun e =>
    match e.2.id with
    | some name => if name = e.1 then none else some (.renamedSet e.1)
    | none => none

/-- The first defect of a world. -/
def defect? : Option Defect :=
  w.sizeDefect? <|> w.placementDefect? <|> w.cityDefect? <|> w.setDefect?

end World

end YieldRules
