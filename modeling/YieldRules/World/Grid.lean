import YieldRules.World.Basic

/-!
# The grid of a map

Plots are numbered row by row from the left. A location off the map has a
number that no plot has, and a number without a plot has a location off the
map. The arithmetic is in natural numbers, so a map of any size gives two
plots one number only if that number means off the map.
-/

namespace YieldRules

/-- The number of every location that is not on the map. -/
def PlotIndex.offMap : PlotIndex :=
  ⟨0xFFFFFFFF⟩

/-- The location of every number that has no plot. -/
def Location.offMap : Location :=
  ⟨-1, -1⟩

namespace WorldMap

variable (m : WorldMap)

/-- Column and row of a location on the map. -/
def cell? (l : Location) : Option (Nat × Nat) :=
  let x := l.x.toInt
  let y := l.y.toInt
  if 0 ≤ x ∧ 0 ≤ y ∧ x < m.width.toNat ∧ y < m.height.toNat then some (x.toNat, y.toNat) else none

def contains (l : Location) : Bool :=
  (m.cell? l).isSome

def indexOf (l : Location) : PlotIndex :=
  match m.cell? l with
  | none => .offMap
  | some (x, y) =>
    let index := y * m.width.toNat + x
    if index < UInt32.size then ⟨UInt32.ofNat index⟩ else .offMap

/-- A coordinate must fit into a signed word. -/
def coordinateLimit : Nat :=
  Nat.pow 2 31

def locationOf (p : PlotIndex) : Location :=
  let width := m.width.toNat
  let x := p.index.toNat % width
  let y := p.index.toNat / width
  if width = 0 ∨ m.height.toNat ≤ y then .offMap
  else if x < coordinateLimit ∧ y < coordinateLimit then ⟨Int32.ofNat x, Int32.ofNat y⟩
  else .offMap

/-- What is listed of a plot. -/
def plotAt? (l : Location) : Option PlotState :=
  m.plots.find? fun plot => plot.location == l

end WorldMap

end YieldRules
