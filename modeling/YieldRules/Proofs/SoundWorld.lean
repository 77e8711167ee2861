import YieldRules.Proofs.Entries
import YieldRules.Proofs.PlotNumbers
import YieldRules.World.View
import Mathlib.Data.Option.Basic

/-!
# Worlds without defects

In a world without a defect the map has a valid size and everything that is
placed lies on it, so whatever is reached by the number of a plot is found where
it was placed. At the end stands a small world of this kind to try statements
on.
-/

namespace YieldRules.World

variable {w : World} {city : CityId} {state : CityState} {l : Location}

theorem defect?_eq_none_iff : w.defect? = none ↔
    w.sizeDefect? = none ∧ w.placementDefect? = none ∧ w.cityDefect? = none ∧
      w.setDefect? = none := by
  simp only [defect?, Option.orElse_eq_none]

theorem sizeDefect?_eq_none_iff : w.sizeDefect? = none ↔ w.map.hasValidSize = true := by
  simp only [sizeDefect?, ite_eq_left_iff, reduceCtorEq, imp_false, Bool.not_eq_true,
    Bool.not_eq_false]

theorem placementDefect?_eq_none_iff : w.placementDefect? = none ↔
    ∀ p ∈ w.placements, w.map.contains p.2 = true := by
  simp [placementDefect?, List.findSome?_eq_none_iff]

theorem mem_placements_of_purchased (listed : w.cities.get? city = some state)
    (purchased : l ∈ state.purchasedPlots) : (.purchasedPlot city, l) ∈ w.placements := by
  have entry := SortedMap.get?_eq_some_iff.mp listed
  simp only [placements, List.mem_append, List.mem_flatMap, List.mem_cons, List.mem_map]
  exact Or.inl (Or.inl (Or.inr ⟨_, entry, Or.inr ⟨l, purchased, rfl⟩⟩))

theorem mem_placements_of_city (listed : w.cities.get? city = some state) :
    (.city city, state.location) ∈ w.placements := by
  have entry := SortedMap.get?_eq_some_iff.mp listed
  simp only [placements, List.mem_append, List.mem_flatMap, List.mem_cons, List.mem_map]
  exact Or.inl (Or.inl (Or.inr ⟨_, entry, Or.inl rfl⟩))

theorem mem_placements_of_unit {unit : UnitId} {state : UnitState}
    (listed : w.units.get? unit = some state) :
    (.unit unit, state.location) ∈ w.placements := by
  have entry := SortedMap.get?_eq_some_iff.mp listed
  simp only [placements, List.mem_append, List.mem_map]
  exact Or.inl (Or.inr ⟨_, entry, rfl⟩)

theorem mem_placements_of_plot {plot : PlotState} (listed : plot ∈ w.map.plots) :
    (.plot, plot.location) ∈ w.placements := by
  simp only [placements, List.mem_append, List.mem_map]
  exact Or.inl (Or.inl (Or.inl ⟨plot, listed, rfl⟩))

theorem mem_placements_of_constructible {id : ConstructibleId} {state : ConstructibleState}
    (listed : w.constructibles.get? id = some state) :
    (.constructible id, state.location) ∈ w.placements := by
  have entry := SortedMap.get?_eq_some_iff.mp listed
  simp only [placements, List.mem_append, List.mem_map]
  exact Or.inr ⟨_, entry, rfl⟩

theorem hasValidSize_of_sound (sound : w.defect? = none) : w.map.hasValidSize = true :=
  sizeDefect?_eq_none_iff.mp (defect?_eq_none_iff.mp sound).1

theorem contains_of_placed (sound : w.defect? = none) {what : Placed}
    (placed : (what, l) ∈ w.placements) : w.map.contains l = true :=
  placementDefect?_eq_none_iff.mp (defect?_eq_none_iff.mp sound).2.1 _ placed

/-- Whatever is placed is found again under the number of its location. -/
theorem locationOf_placed (sound : w.defect? = none) {what : Placed}
    (placed : (what, l) ∈ w.placements) : w.map.locationOf (w.map.indexOf l) = l :=
  WorldMap.locationOf_indexOf (WorldMap.indexOf_ne_offMap (hasValidSize_of_sound sound)
    (contains_of_placed sound placed))

theorem locationOf_purchased (sound : w.defect? = none)
    (listed : w.cities.get? city = some state) (purchased : l ∈ state.purchasedPlots) :
    w.map.locationOf (w.map.indexOf l) = l :=
  locationOf_placed sound (mem_placements_of_purchased listed purchased)

end YieldRules.World

namespace YieldRules.Harbour

def city : CityId := ⟨1⟩

def pier : Location := ⟨1, 0⟩

/-- A lake, unless the second record of the same place counted. -/
def plots : List PlotState :=
  [⟨pier, some "TERRAIN_COAST", none, none, none, none, true, .none, false⟩,
    ⟨pier, some "TERRAIN_FLAT", none, none, none, none, false, .none, false⟩]

/-- One city that has bought its lake twice. A fishery stands on the lake, and a hidden one on the
land. -/
def world : World :=
  { World.empty with
    map := ⟨2, 2, plots⟩
    cities := SortedMap.insert {} city ⟨.first, "", .origin, true, [pier, .origin, pier], {}⟩
    constructibles :=
      (SortedMap.insert {} ⟨7⟩ ⟨"IMPROVEMENT_FISHERY", pier, some city, false⟩).insert ⟨8⟩
        ⟨"IMPROVEMENT_FISHERY", .origin, some city, true⟩ }

theorem world_sound : world.defect? = none := by
  decide

end YieldRules.Harbour
