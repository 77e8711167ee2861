import YieldRules.Proofs.SoundWorld
import Mathlib.Data.Set.Function

/-!
# Numbering a map

On a map of a valid size the numbers below its area and the locations within its
bounds lead to each other, one to one. Every other location has the number that
means off the map, and every other number has the location that does. A map that
is too large gives some of its locations no number of their own, but it never
gives one number to two of them.
-/

namespace YieldRules

namespace WorldMap

variable {m : WorldMap} {l l' : Location} {p : PlotIndex}

/-- How many plots a map has. -/
def area (m : WorldMap) : Nat :=
  m.width.toNat * m.height.toNat

/-- Both coordinates of a location are on the map. -/
def InBounds (m : WorldMap) (l : Location) : Prop :=
  (0 ≤ l.x.toInt ∧ l.x.toInt < m.width.toNat) ∧ (0 ≤ l.y.toInt ∧ l.y.toInt < m.height.toNat)

theorem contains_iff_inBounds : m.contains l = true ↔ m.InBounds l := by
  simp only [contains, cell?, InBounds, Option.isSome_ite]
  constructor
  · rintro ⟨left, top, right, bottom⟩
    exact ⟨⟨left, right⟩, ⟨top, bottom⟩⟩
  · rintro ⟨⟨left, right⟩, ⟨top, bottom⟩⟩
    exact ⟨left, top, right, bottom⟩

theorem hasValidSize_iff : m.hasValidSize = true ↔
    (0 < m.width.toNat ∧ m.width.toNat ≤ 2147483647) ∧
      (0 < m.height.toNat ∧ m.height.toNat ≤ 2147483647) ∧ m.area ≤ 4294967295 := by
  have limit : coordinateLimit = 2147483648 := rfl
  have size : UInt32.size = 4294967296 := rfl
  simp only [hasValidSize, Bool.and_eq_true, decide_eq_true_eq, area]
  omega

/-! ## Off the map -/

theorem indexOf_of_outside (outside : ¬ m.InBounds l) : m.indexOf l = .offMap := by
  cases cell : m.cell? l with
  | none => simp only [indexOf, cell]
  | some xy =>
    have inside : m.contains l = true := by simp only [contains, cell, Option.isSome_some]
    exact False.elim (outside (contains_iff_inBounds.mp inside))

theorem inBounds_of_ne_offMap (onMap : m.indexOf l ≠ .offMap) : m.InBounds l := by
  by_cases inside : m.InBounds l
  · exact inside
  · exact False.elim (onMap (indexOf_of_outside inside))

/-- The row of a number at or beyond the area is below the last row of the map. -/
theorem locationOf_of_area_le (beyond : m.area ≤ p.index.toNat) : m.locationOf p = .offMap := by
  have offMap : m.width.toNat = 0 ∨ m.height.toNat ≤ p.index.toNat / m.width.toNat := by
    by_cases empty : m.width.toNat = 0
    · exact Or.inl empty
    · have positive : 0 < m.width.toNat := Nat.pos_of_ne_zero empty
      refine Or.inr ((Nat.le_div_iff_mul_le positive).mpr ?_)
      rw [Nat.mul_comm]
      exact beyond
  simp only [locationOf, if_pos offMap]

theorem not_inBounds_offMap : ¬ m.InBounds .offMap := by
  intro inside
  have negative : Location.offMap.x.toInt = -1 := rfl
  have bound := inside.1.1
  omega

/-! ## On the map -/

theorem indexOf_on_map (sized : m.hasValidSize = true) (inside : m.InBounds l) :
    (m.indexOf l).index.toNat < m.area :=
  indexOf_lt_area sized (contains_iff_inBounds.mpr inside)

theorem locationOf_indexOf_of_inBounds (sized : m.hasValidSize = true) (inside : m.InBounds l) :
    m.locationOf (m.indexOf l) = l :=
  locationOf_indexOf (ne_offMap_of_lt_area sized (indexOf_on_map sized inside))

/-- Column and row of a number on the map, as its location has them. -/
theorem cell?_locationOf (sized : m.hasValidSize = true) (onMap : p.index.toNat < m.area) :
    m.cell? (m.locationOf p) =
      some (p.index.toNat % m.width.toNat, p.index.toNat / m.width.toNat) := by
  obtain ⟨⟨positive, narrow⟩, ⟨_, low⟩, _⟩ := hasValidSize_iff.mp sized
  have limit : coordinateLimit = 2147483648 := rfl
  have column : p.index.toNat % m.width.toNat < m.width.toNat := Nat.mod_lt _ positive
  have row : p.index.toNat / m.width.toNat < m.height.toNat := Nat.div_lt_of_lt_mul onMap
  have number : p.index.toNat =
      p.index.toNat / m.width.toNat * m.width.toNat + p.index.toNat % m.width.toNat :=
    (Nat.div_add_mod' _ _).symm
  have small : p.index.toNat % m.width.toNat < coordinateLimit ∧
      p.index.toNat / m.width.toNat < coordinateLimit := by omega
  rw [locationOf_of_toNat column row number small]
  exact cell?_eq_some_iff.mpr ⟨Int32.toInt_ofNat_of_lt small.1, Int32.toInt_ofNat_of_lt small.2,
    column, row⟩

theorem locationOf_inBounds (sized : m.hasValidSize = true) (onMap : p.index.toNat < m.area) :
    m.InBounds (m.locationOf p) := by
  apply contains_iff_inBounds.mp
  rw [contains, cell?_locationOf sized onMap, Option.isSome_some]

theorem indexOf_locationOf (sized : m.hasValidSize = true) (onMap : p.index.toNat < m.area) :
    m.indexOf (m.locationOf p) = p := by
  have cell := cell?_locationOf sized onMap
  have whole : p.index.toNat / m.width.toNat * m.width.toNat + p.index.toNat % m.width.toNat =
      p.index.toNat := Nat.div_add_mod' _ _
  have fits : p.index.toNat / m.width.toNat * m.width.toNat + p.index.toNat % m.width.toNat <
      UInt32.size := by
    rw [whole]
    exact p.index.toNat_lt
  have same : (m.indexOf (m.locationOf p)).index = p.index :=
    UInt32.toNat_inj.mp ((indexOf_toNat cell fits).trans whole)
  exact congrArg PlotIndex.mk same

/-- Whatever the size of the map, two of its locations share no number but the one that means off
the map. -/
theorem eq_of_indexOf_eq (onMap : m.indexOf l ≠ .offMap) (same : m.indexOf l = m.indexOf l') :
    l = l' := by
  have onMap' : m.indexOf l' ≠ .offMap := same ▸ onMap
  calc l = m.locationOf (m.indexOf l) := (locationOf_indexOf onMap).symm
    _ = m.locationOf (m.indexOf l') := by rw [same]
    _ = l' := locationOf_indexOf onMap'

end WorldMap

namespace World

variable {w : World} {l : Location}

/-- Nothing at all is found at a location. -/
structure NothingAt (w : World) (l : Location) : Prop where
  lake : w.isLake l = false
  river : w.isRiver l = false
  navigableRiver : w.isNavigableRiver l = false
  naturalWonder : w.isNaturalWonder l = false
  biome : w.biome l = none
  feature : w.feature l = none
  terrain : w.terrain l = none
  resource : w.resource l = none
  route : w.route l = none
  constructibles : w.visibleAt l = []

theorem plotAt?_of_outside (sound : w.defect? = none) (outside : ¬ w.map.InBounds l) :
    w.map.plotAt? l = none := by
  apply List.find?_eq_none.mpr
  intro plot listed here
  obtain rfl : plot.location = l := eq_of_beq here
  have placed : (.plot, plot.location) ∈ w.placements := mem_placements_of_plot listed
  exact outside (WorldMap.contains_iff_inBounds.mp (contains_of_placed sound placed))

theorem visibleAt_of_outside (sound : w.defect? = none) (outside : ¬ w.map.InBounds l) :
    w.visibleAt l = [] := by
  apply List.eq_nil_iff_forall_not_mem.mpr
  intro id visible
  obtain ⟨c, listed, shown⟩ := SortedMap.mem_keysWhere.mp visible
  obtain rfl : c.location = l := eq_of_beq (Bool.and_eq_true_iff.mp shown).1
  have placed : (.constructible id, c.location) ∈ w.placements :=
    mem_placements_of_constructible listed
  exact outside (WorldMap.contains_iff_inBounds.mp (contains_of_placed sound placed))

theorem nothingAt_of_outside (sound : w.defect? = none) (outside : ¬ w.map.InBounds l) :
    w.NothingAt l := by
  have unlisted := plotAt?_of_outside sound outside
  constructor
  case constructibles => exact visibleAt_of_outside sound outside
  all_goals simp only [isLake, isRiver, isNavigableRiver, isNaturalWonder, World.biome,
    World.feature, World.terrain, World.resource, World.route, unlisted, Option.any_none,
    Option.bind_none]

/-- On a map of a valid size numbers and locations are inverse to each other, and what is off the
map has neither the number nor the location of a plot; in a world without defects nothing is found
there. On a map of any size a number that does not mean off the map belongs to one location. -/
theorem plot_numbers_inverse_and_unaliased (w : World) :
    (w.map.hasValidSize = true ↔
      (0 < w.map.width.toNat ∧ w.map.width.toNat ≤ 2147483647) ∧
        (0 < w.map.height.toNat ∧ w.map.height.toNat ≤ 2147483647) ∧
        w.map.area ≤ 4294967295) ∧
    (w.map.hasValidSize = true →
      Set.BijOn w.map.indexOf {l | w.map.InBounds l} {p | p.index.toNat < w.map.area} ∧
      (∀ l, w.map.InBounds l → w.map.locationOf (w.map.indexOf l) = l) ∧
      (∀ p : PlotIndex, p.index.toNat < w.map.area →
        w.map.indexOf (w.map.locationOf p) = p ∧ p ≠ .offMap) ∧
      (∀ l, ¬ w.map.InBounds l → w.map.indexOf l = .offMap) ∧
      (∀ p : PlotIndex, w.map.area ≤ p.index.toNat → w.map.locationOf p = .offMap) ∧
      w.map.locationOf .offMap = .offMap ∧ ¬ w.map.InBounds .offMap) ∧
    (w.defect? = none → ∀ l, ¬ w.map.InBounds l → w.NothingAt l) ∧
    (∀ l, w.map.indexOf l ≠ .offMap →
      w.map.InBounds l ∧ w.map.locationOf (w.map.indexOf l) = l) ∧
    (∀ l l', w.map.InBounds l → w.map.InBounds l' → w.map.indexOf l = w.map.indexOf l' →
      l = l' ∨ w.map.indexOf l = .offMap) := by
  refine ⟨WorldMap.hasValidSize_iff, ?_, fun sound l => nothingAt_of_outside sound, ?_, ?_⟩
  · intro sized
    have inverse : Set.InvOn w.map.locationOf w.map.indexOf {l | w.map.InBounds l}
        {p | p.index.toNat < w.map.area} :=
      ⟨fun l => WorldMap.locationOf_indexOf_of_inBounds sized,
        fun p => WorldMap.indexOf_locationOf sized⟩
    refine ⟨inverse.bijOn (fun l => WorldMap.indexOf_on_map sized)
      (fun p => WorldMap.locationOf_inBounds sized), inverse.1, ?_, ?_, ?_, ?_,
      WorldMap.not_inBounds_offMap⟩
    · intro p onMap
      exact ⟨inverse.2 onMap, WorldMap.ne_offMap_of_lt_area sized onMap⟩
    · intro l outside
      exact WorldMap.indexOf_of_outside outside
    · intro p beyond
      exact WorldMap.locationOf_of_area_le beyond
    · apply WorldMap.locationOf_of_area_le
      exact (WorldMap.hasValidSize_iff.mp sized).2.2
  · intro l onMap
    exact ⟨WorldMap.inBounds_of_ne_offMap onMap, WorldMap.locationOf_indexOf onMap⟩
  · intro l l' _ _ same
    by_cases offMap : w.map.indexOf l = .offMap
    · exact Or.inr offMap
    · exact Or.inl (WorldMap.eq_of_indexOf_eq offMap same)

end World

namespace Ocean

/-- The last plot of this map has the last number that a plot can have. -/
def world : World :=
  { World.empty with map := ⟨65537, 65535, []⟩ }

def corner : Location := ⟨65536, 65534⟩

theorem plot_numbers_inverse_and_unaliased_ocean :
    world.map.indexOf corner = ⟨4294967294⟩ ∧ world.map.locationOf ⟨4294967294⟩ = corner ∧
    world.map.indexOf ⟨65537, 0⟩ = .offMap ∧ world.map.locationOf .offMap = ⟨-1, -1⟩ ∧
    world.NothingAt ⟨-1, -1⟩ := by
  have sound : world.defect? = none := by decide
  have inside : world.map.InBounds corner := by simp [WorldMap.InBounds, world, corner]
  have outside : ¬ world.map.InBounds ⟨65537, 0⟩ := by simp [WorldMap.InBounds, world]
  obtain ⟨_, numbered, nothing, _, _⟩ := World.plot_numbers_inverse_and_unaliased world
  obtain ⟨_, located, _, offNumber, _, offLocation, offMap⟩ :=
    numbered (World.hasValidSize_of_sound sound)
  have number : world.map.indexOf corner = ⟨4294967294⟩ := by rfl
  exact ⟨number, number ▸ located corner inside, offNumber _ outside, offLocation,
    nothing sound _ offMap⟩

/-- On a map that is too large a location may have to do without a number of its own. -/
example : (⟨4294967295, 2, []⟩ : WorldMap).contains ⟨0, 1⟩ = true ∧
    (⟨4294967295, 2, []⟩ : WorldMap).indexOf ⟨0, 1⟩ = .offMap := by
  decide

end Ocean

end YieldRules
