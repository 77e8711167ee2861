import YieldRules.Document.Serial

/-!
# Identifiers and map coordinates

Live objects have numbers of 32 bits, one space of numbers for each kind of
object. Game records are known by name.
-/

namespace YieldRules

/-- The name of a record in the game database. -/
abbrev DataName := String

inductive Entity where
  | city
  | unit
  | constructible

/-- The number of a live object of one kind. -/
structure Id (e : Entity) where
  raw : UInt32
  deriving DecidableEq

abbrev CityId := Id .city
abbrev UnitId := Id .unit
abbrev ConstructibleId := Id .constructible

namespace Id

variable {e : Entity}

instance : Ord (Id e) := ⟨fun a b => compare a.raw b.raw⟩

instance : Std.TransOrd (Id e) where
  eq_swap {a b} := Std.OrientedOrd.eq_swap (a := a.raw) (b := b.raw)
  isLE_trans {a b c} := Std.TransOrd.isLE_trans (a := a.raw) (b := b.raw) (c := c.raw)

instance : Std.LawfulEqOrd (Id e) where
  compare_self {a} := Std.ReflOrd.compare_self (a := a.raw)
  eq_of_compare {a b} h := by
    have : a.raw = b.raw := Std.LawfulEqOrd.eq_of_compare h
    cases a
    cases b
    simp_all

theorem lt_of_compare {a b : Id e} (h : compare a b = .lt) : a.raw < b.raw :=
  Std.compare_eq_lt.mp (show compare a.raw b.raw = .lt from h)

instance : Serial (Id e) where
  toNode i := toNode i.raw
  ofNode? n := (ofNode? n).map Id.mk

instance : SerialKey (Id e) where
  toKey i := SerialKey.toKey i.raw
  ofKey? k := (SerialKey.ofKey? k).map Id.mk

end Id

structure PlayerId where
  index : UInt8
  deriving DecidableEq, Inhabited

instance : Serial PlayerId where
  toNode p := toNode p.index
  ofNode? n := (ofNode? n).map PlayerId.mk

/-- The number of a plot: row by row, from the left. -/
structure PlotIndex where
  index : UInt32
  deriving DecidableEq

instance : Serial PlotIndex where
  toNode p := toNode p.index
  ofNode? n := (ofNode? n).map PlotIndex.mk

/-- A place on the map, or one off its edge. -/
structure Location where
  x : Int32
  y : Int32
  deriving DecidableEq, Inhabited

instance : Serial Location where
  toNode l := .table (field "x" l.x ++ field "y" l.y)
  ofNode? n := do
    let fields ← n.fields? ["x", "y"]
    return { x := ← fields.required "x", y := ← fields.required "y" }

end YieldRules
