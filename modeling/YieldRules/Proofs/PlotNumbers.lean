import YieldRules.World.Defect

/-!
# Numbers of plots

The number of a location leads back to the location, unless it is the number
that means off the map. On a map of a valid size every location within the
bounds has another number than that.
-/

namespace YieldRules.WorldMap

variable {m : WorldMap} {l : Location} {x y : Nat}

theorem cell?_eq_some_iff : m.cell? l = some (x, y) ↔
    l.x.toInt = x ∧ l.y.toInt = y ∧ x < m.width.toNat ∧ y < m.height.toNat := by
  simp only [cell?, Option.ite_none_right_eq_some, Option.some.injEq, Prod.mk.injEq]
  omega

/-- Column and row of a location are small enough for a coordinate. -/
theorem cell_lt_coordinateLimit (cell : m.cell? l = some (x, y)) :
    x < coordinateLimit ∧ y < coordinateLimit := by
  obtain ⟨hx, hy, _, _⟩ := cell?_eq_some_iff.mp cell
  have limit : (coordinateLimit : Int) = 2147483648 := rfl
  have boundX := l.x.toInt_lt
  have boundY := l.y.toInt_lt
  omega

theorem indexOf_toNat (cell : m.cell? l = some (x, y))
    (fits : y * m.width.toNat + x < UInt32.size) :
    (m.indexOf l).index.toNat = y * m.width.toNat + x := by
  simp only [indexOf, cell, if_pos fits]
  exact UInt32.toNat_ofNat_of_lt' fits

theorem locationOf_of_toNat {p : PlotIndex} (width : x < m.width.toNat)
    (height : y < m.height.toNat) (number : p.index.toNat = y * m.width.toNat + x)
    (small : x < coordinateLimit ∧ y < coordinateLimit) :
    m.locationOf p = ⟨Int32.ofNat x, Int32.ofNat y⟩ := by
  have positive : 0 < m.width.toNat := by omega
  have column : p.index.toNat % m.width.toNat = x := by
    rw [number, Nat.mul_comm, Nat.mul_add_mod, Nat.mod_eq_of_lt width]
  have row : p.index.toNat / m.width.toNat = y := by
    rw [number, Nat.mul_comm, Nat.mul_add_div positive, Nat.div_eq_of_lt width, Nat.add_zero]
  have onMap : ¬ (m.width.toNat = 0 ∨ m.height.toNat ≤ y) := by omega
  simp only [locationOf, column, row, if_neg onMap, if_pos small]

/-- Whatever the size of the map, a number that does not mean off the map leads back. -/
theorem locationOf_indexOf (onMap : m.indexOf l ≠ .offMap) : m.locationOf (m.indexOf l) = l := by
  cases cell : m.cell? l with
  | none => exact False.elim (onMap (by simp only [indexOf, cell]))
  | some xy =>
    obtain ⟨x, y⟩ := xy
    by_cases fits : y * m.width.toNat + x < UInt32.size
    · have small := cell_lt_coordinateLimit cell
      obtain ⟨hx, hy, width, height⟩ := cell?_eq_some_iff.mp cell
      rw [locationOf_of_toNat width height (indexOf_toNat cell fits) small]
      have sameX : Int32.ofNat x = l.x :=
        Int32.toInt_inj.mp ((Int32.toInt_ofNat_of_lt small.1).trans hx.symm)
      have sameY : Int32.ofNat y = l.y :=
        Int32.toInt_inj.mp ((Int32.toInt_ofNat_of_lt small.2).trans hy.symm)
      rw [sameX, sameY]
    · exact False.elim (onMap (by simp only [indexOf, cell, if_neg fits]))

/-- The last number on a map is one less than the area of the map. -/
theorem indexOf_lt_area (sized : m.hasValidSize = true) (inside : m.contains l = true) :
    (m.indexOf l).index.toNat < m.width.toNat * m.height.toNat := by
  obtain ⟨⟨x, y⟩, cell⟩ := Option.isSome_iff_exists.mp inside
  obtain ⟨_, _, width, height⟩ := cell?_eq_some_iff.mp cell
  have area : m.width.toNat * m.height.toNat < UInt32.size := by
    simp only [hasValidSize, Bool.and_eq_true, decide_eq_true_eq] at sized
    exact sized.2
  have rows : (y + 1) * m.width.toNat ≤ m.width.toNat * m.height.toNat := by
    rw [Nat.mul_comm m.width.toNat]
    exact Nat.mul_le_mul_right _ height
  have number : y * m.width.toNat + x < m.width.toNat * m.height.toNat := by
    rw [Nat.add_mul, Nat.one_mul] at rows
    omega
  rw [indexOf_toNat cell (by omega)]
  exact number

/-- On a map of a valid size the number that means off the map is beyond all plots. -/
theorem ne_offMap_of_lt_area {p : PlotIndex} (sized : m.hasValidSize = true)
    (onMap : p.index.toNat < m.width.toNat * m.height.toNat) : p ≠ .offMap := by
  rintro rfl
  have area : m.width.toNat * m.height.toNat < UInt32.size := by
    simp only [hasValidSize, Bool.and_eq_true, decide_eq_true_eq] at sized
    exact sized.2
  have last : PlotIndex.offMap.index.toNat = 4294967295 := rfl
  have size : UInt32.size = 4294967296 := rfl
  omega

theorem indexOf_ne_offMap (sized : m.hasValidSize = true) (inside : m.contains l = true) :
    m.indexOf l ≠ .offMap :=
  ne_offMap_of_lt_area sized (indexOf_lt_area sized inside)

end YieldRules.WorldMap
