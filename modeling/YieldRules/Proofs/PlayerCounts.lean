import YieldRules.Proofs.ArgumentValues
import YieldRules.Proofs.BuiltPlots
import YieldRules.Proofs.CityBuildings
import Mathlib.Data.Set.Card

/-!
# Counts for a player

What a modifier counts for a player is a number of records. A tag is counted in
cities: those of the player in which something of a defined type carries it. A
type is counted in constructibles: those that stand in any city of the player.
The scans go through the cities one by one and still count everything once,
because no city is listed twice and no constructible stands in two cities.
-/

namespace YieldRules

/-- A list without repeats is as long as there are things of the kind that it lists. -/
theorem length_eq_ncard {α : Type} {xs : List α} {p : α → Prop} (distinct : xs.Nodup)
    (exact : ∀ x, x ∈ xs ↔ p x) : xs.length = {x | p x}.ncard := by
  classical
  have same : {x | p x} = ↑xs.toFinset := by
    ext x
    simp [exact]
  rw [same, Set.ncard_coe_finset, List.toFinset_card_of_nodup distinct]

namespace World

variable {w : World} {options : Options} {player : PlayerId} {city : CityId} {tag : String}
variable {name : DataName} {id : ConstructibleId}

/-- A city belongs to a player. -/
def Owns (w : World) (player : PlayerId) (city : CityId) : Prop :=
  ∃ state, w.cities.get? city = some state ∧ state.owner = player

/-- Something that stands in a city is of a defined type and carries a tag. -/
def HasTagged (w : World) (city : CityId) (tag : String) : Prop :=
  ∃ id state, w.constructibles.get? id = some state ∧ state.city = some city ∧
    (∃ t ∈ w.constructibleTypes, t.name = state.typeName) ∧
    w.tags.has state.typeName tag = true

/-- A constructible, hidden or not, is of a type and stands in a city of a player. -/
def OwnsOfType (w : World) (player : PlayerId) (name : DataName) (id : ConstructibleId) : Prop :=
  ∃ state, w.constructibles.get? id = some state ∧ state.typeName = name ∧
    ∃ city, state.city = some city ∧ w.Owns player city

/-! ## Tags -/

theorem any_tagged_iff : ((w.context options).buildings city).any
    (fun b => w.tags.has b.definition.name tag) = true ↔ w.HasTagged city tag := by
  rw [List.any_eq_true]
  constructor
  · rintro ⟨b, listed, carries⟩
    obtain ⟨state, recorded, home, defined⟩ := exists_building_iff.mp ⟨b, listed, rfl⟩
    obtain ⟨_, named⟩ := (mem_buildings_iff.mp listed).of_record recorded
    exact ⟨b.id, state, recorded, home, defined, named ▸ carries⟩
  · rintro ⟨id, state, recorded, home, defined, carries⟩
    obtain ⟨b, listed, rfl⟩ := exists_building_iff.mpr ⟨state, recorded, home, defined⟩
    obtain ⟨_, named⟩ := (mem_buildings_iff.mp listed).of_record recorded
    exact ⟨b, listed, named ▸ carries⟩

/-- However many buildings of a city carry the tag, the city counts once. -/
theorem countWithTag_eq_ncard (w : World) (options : Options) (player : PlayerId)
    (tag : String) :
    (w.context options).countWithTag (w.citiesOf player) tag =
      {city | w.Owns player city ∧ w.HasTagged city tag}.ncard := by
  have tagged (city : CityId) : (((w.context options).buildings city).find? fun b =>
      (w.context options).hasTag b.definition.name tag).isSome =
        ((w.context options).buildings city).any fun b => w.tags.has b.definition.name tag :=
    List.isSome_find?
  rw [Context.countWithTag, Context.buildingsWithTag, List.length_filterMap_eq_countP,
    List.countP_eq_length_filter]
  apply length_eq_ncard ((w.citiesOf_nodup player).filter _)
  intro city
  rw [List.mem_filter, Option.isSome_map, tagged, any_tagged_iff, mem_citiesOf_iff, Owns]

/-! ## Types -/

theorem constructibles_nodup (w : World) (player : PlayerId) :
    ((w.citiesOf player).flatMap w.constructiblesOf).Nodup := by
  rw [List.nodup_flatMap]
  constructor
  · intro city _
    exact w.constructibles.keysWhere_nodup _
  · apply (w.citiesOf_nodup player).imp
    intro city city' differs id standing standing'
    obtain ⟨state, recorded, home⟩ := mem_constructiblesOf_iff.mp standing
    obtain ⟨state', recorded', home'⟩ := mem_constructiblesOf_iff.mp standing'
    obtain rfl : state = state' := Option.some.inj (recorded.symm.trans recorded')
    exact differs (Option.some.inj (home.symm.trans home'))

theorem countOfType_eq_ncard (w : World) (options : Options) (player : PlayerId)
    (name : DataName) :
    (w.context options).countOfType (w.citiesOf player) name =
      {id | w.OwnsOfType player name id}.ncard := by
  have scanned : (w.context options).countOfType (w.citiesOf player) name =
      ((w.citiesOf player).flatMap w.constructiblesOf).countP
        fun id => w.typeName id == some name := rfl
  rw [scanned, List.countP_eq_length_filter]
  apply length_eq_ncard ((w.constructibles_nodup player).filter _)
  intro id
  simp only [List.mem_filter, List.mem_flatMap, mem_citiesOf_iff, mem_constructiblesOf_iff,
    beq_iff_eq, typeName, Option.map_eq_some_iff]
  constructor
  · rintro ⟨⟨city, owned, state, recorded, home⟩, state', recorded', named⟩
    obtain rfl : state = state' := Option.some.inj (recorded.symm.trans recorded')
    exact ⟨state, recorded, named, city, home, owned⟩
  · rintro ⟨state, recorded, named, city, home, owned⟩
    exact ⟨⟨city, owned, state, recorded, home⟩, state, recorded, named⟩

/-- In every world a modifier with a tag counts the cities of the player in which a defined type
carries it, and one with a type but without a tag all constructibles of the type that stand in
cities of the player. An empty argument is none, and without either nothing is counted. -/
theorem countForPlayer_eq_ncard (w : World) (options : Options) (player : PlayerId)
    (m : Modifier) :
    (∀ tag, m.arguments.Gives "Tag" tag → (w.context options).countForPlayer player m =
      {city | w.Owns player city ∧ w.HasTagged city tag}.ncard) ∧
    ((∀ tag, ¬ m.arguments.Gives "Tag" tag) →
      (∀ name, m.arguments.Gives "ConstructibleType" name →
        (w.context options).countForPlayer player m =
          {id | w.OwnsOfType player name id}.ncard) ∧
      ((∀ name, ¬ m.arguments.Gives "ConstructibleType" name) →
        (w.context options).countForPlayer player m = 0)) := by
  have cities : (w.context options).world.cities player = w.citiesOf player := rfl
  constructor
  · intro tag given
    have asked := Arguments.value?_eq_some_iff.mpr given
    simp only [Context.countForPlayer, Context.count, Arguments.countArgument?, asked, cities,
      countWithTag_eq_ncard]
  · intro untagged
    have free := Arguments.value?_eq_none_iff.mpr untagged
    constructor
    · intro name given
      have asked := Arguments.value?_eq_some_iff.mpr given
      simp only [Context.countForPlayer, Context.count, Arguments.countArgument?, free, asked,
        cities, Option.map_some, countOfType_eq_ncard]
    · intro untyped
      have nothing := Arguments.value?_eq_none_iff.mpr untyped
      simp only [Context.countForPlayer, Context.count, Arguments.countArgument?, free, nothing,
        Option.map_none]

end World

namespace Harbour

/-- A modifier that counts by tag and by type. -/
def counting (tag : String) (typeName : DataName) : Modifier :=
  (Modifier.ofEffect .owner "EFFECT").withArguments
    ((Arguments.set {} "Tag" tag).set "ConstructibleType" typeName)

/-- Both fisheries of the town carry the tag and are counted as one city. By type they are two,
though one of them is hidden, and an empty tag does not keep them from being counted so. -/
theorem countForPlayer_eq_ncard_harbour :
    {c | town.Owns .first c ∧ town.HasTagged c "FOOD"}.ncard = 1 ∧
    {id | town.OwnsOfType .first "IMPROVEMENT_FISHERY" id}.ncard = 2 ∧
    {id | town.OwnsOfType .first "IMPROVEMENT_BUOY" id}.ncard = 1 ∧
    (town.context .default).countForPlayer .first (counting "" "") = 0 := by
  have counts (tag : String) (typeName : DataName) :=
    World.countForPlayer_eq_ncard town .default .first (counting tag typeName)
  have gives {tag typeName name value : String}
      (asked : (counting tag typeName).arguments.value? name = some value) :=
    Arguments.value?_eq_some_iff.mp asked
  have empty {tag typeName name : String}
      (asked : (counting tag typeName).arguments.value? name = none) :=
    Arguments.value?_eq_none_iff.mp asked
  refine ⟨?_, ?_, ?_, ?_⟩
  · exact ((counts "FOOD" "IMPROVEMENT_FISHERY").1 "FOOD" (gives rfl)).symm
  · exact (((counts "" "IMPROVEMENT_FISHERY").2 (empty rfl)).1 _ (gives rfl)).symm
  · exact (((counts "" "IMPROVEMENT_BUOY").2 (empty rfl)).1 _ (gives rfl)).symm
  · exact ((counts "" "").2 (empty rfl)).2 (empty rfl)

end Harbour

end YieldRules
