import YieldRules.Proofs.DirectCount
import YieldRules.Proofs.InTurn
import Mathlib.Algebra.GroupWithZero.Nat

/-!
# One listing of buildings

All that is asked about the buildings of a city is read off one listing: the
constructibles that the records assign to the city and whose type is defined,
in ascending order. Where a type is not defined a constructible is not listed,
but it is still counted by its type.
-/

namespace YieldRules

/-! ## The first of an ascending list -/

section

variable {α : Type} {e : Entity} {key : α → Id e} {p : α → Bool} {xs : List α} {x : α} {k : Id e}

theorem le_of_find?_ascending (ascending : xs.Pairwise fun a b => (key a).raw < (key b).raw)
    (found : xs.find? p = some x) {y : α} (listed : y ∈ xs) (passes : p y = true) :
    (key x).raw ≤ (key y).raw := by
  obtain ⟨_, before, after, rfl, failed⟩ := List.find?_eq_some_iff_append.mp found
  rcases List.mem_append.mp listed with earlier | later
  · have fails := failed y earlier
    rw [passes] at fails
    cases fails
  · obtain ⟨_, rest, _⟩ := List.pairwise_append.mp ascending
    rcases List.mem_cons.mp later with rfl | later
    · exact UInt32.le_refl _
    · exact UInt32.le_of_lt ((List.pairwise_cons.mp rest).1 y later)

/-- In ascending order the first item that passes a test is the one of the least number. -/
theorem find?_map_eq_some_iff_least
    (ascending : xs.Pairwise fun a b => (key a).raw < (key b).raw) :
    (xs.find? p).map key = some k ↔
      (∃ x ∈ xs, key x = k ∧ p x = true) ∧ ∀ x ∈ xs, p x = true → k.raw ≤ (key x).raw := by
  constructor
  · intro first
    obtain ⟨x, found, rfl⟩ := Option.map_eq_some_iff.mp first
    refine ⟨⟨x, List.mem_of_find?_eq_some found, rfl, List.find?_some found⟩, ?_⟩
    intro y listed passes
    exact le_of_find?_ascending ascending found listed passes
  · rintro ⟨⟨x, listed, rfl, passes⟩, least⟩
    cases found : xs.find? p with
    | none => exact False.elim (List.find?_eq_none.mp found x listed passes)
    | some y =>
      have below := least y (List.mem_of_find?_eq_some found) (List.find?_some found)
      have above := le_of_find?_ascending ascending found listed passes
      exact congrArg some (congrArg Id.mk (UInt32.le_antisymm above below))

end

/-- Of the listed buildings of a city whose type carries a tag, the one of the least number. -/
structure Context.FirstTagged (ctx : Context) (tag : String) (city : CityId) (id : ConstructibleId) :
    Prop where
  listed : ∃ b ∈ ctx.buildings city, b.id = id ∧ ctx.hasTag b.definition.name tag = true
  least : ∀ b ∈ ctx.buildings city, ctx.hasTag b.definition.name tag = true →
    id.raw ≤ b.id.raw

namespace World

variable {w : World} {options : Options} {city : CityId} {name : DataName}
variable {id : ConstructibleId} {t : ConstructibleType} {b : Building}

/-- A definition is the first that the world lists under its name. -/
def Defines (w : World) (t : ConstructibleType) : Prop :=
  ∃ before after, w.constructibleTypes = before ++ t :: after ∧ ∀ u ∈ before, u.name ≠ t.name

/-- A constructible of a city, together with the definition of its type. -/
structure Houses (w : World) (city : CityId) (b : Building) : Prop where
  recorded : ∃ state, w.constructibles.get? b.id = some state ∧ state.city = some city ∧
    b.definition.name = state.typeName
  defined : w.Defines b.definition

theorem definition_eq_some_iff : w.definition name = some t ↔ t.name = name ∧ w.Defines t := by
  simp only [definition, List.find?_eq_some_iff_append, beq_iff_eq, Bool.not_eq_true',
    beq_eq_false_iff_ne, Defines]
  apply and_congr_right
  rintro rfl
  exact Iff.rfl

theorem exists_definition_iff :
    (∃ t, w.definition name = some t) ↔ ∃ t ∈ w.constructibleTypes, t.name = name := by
  rw [← Option.isSome_iff_exists, definition, List.find?_isSome]
  simp only [beq_iff_eq]

theorem mem_constructiblesOf_iff : id ∈ w.constructiblesOf city ↔
    ∃ state, w.constructibles.get? id = some state ∧ state.city = some city := by
  simp [constructiblesOf, SortedMap.mem_keysWhere]

theorem constructiblesOf_ascending (w : World) (city : CityId) :
    (w.constructiblesOf city).Pairwise fun a b => a.raw < b.raw :=
  (w.constructibles.keysWhere_ascending _).imp Id.lt_of_compare

theorem definitionOf_eq_some_iff : (w.context options).definitionOf id = some t ↔
    ∃ state, w.constructibles.get? id = some state ∧ t.name = state.typeName ∧ w.Defines t := by
  have looked : (w.context options).definitionOf id = (w.typeName id).bind w.definition := rfl
  simp only [looked, typeName, Option.bind_eq_some_iff, Option.map_eq_some_iff,
    definition_eq_some_iff]
  constructor
  · rintro ⟨_, ⟨state, recorded, rfl⟩, named, defined⟩
    exact ⟨state, recorded, named, defined⟩
  · rintro ⟨state, recorded, named, defined⟩
    exact ⟨_, ⟨state, recorded, rfl⟩, named, defined⟩

theorem mem_buildings_iff : b ∈ (w.context options).buildings city ↔ w.Houses city b := by
  have listing : (w.context options).buildings city =
      (w.constructiblesOf city).filterMap fun id =>
        ((w.context options).definitionOf id).map fun definition => ⟨id, definition⟩ := rfl
  simp only [listing, List.mem_filterMap, Option.map_eq_some_iff, definitionOf_eq_some_iff,
    mem_constructiblesOf_iff]
  constructor
  · rintro ⟨id, ⟨state, recorded, home⟩, t, ⟨state', recorded', named, defined⟩, rfl⟩
    obtain rfl : state = state' := Option.some.inj (recorded.symm.trans recorded')
    exact ⟨⟨state, recorded, home, named⟩, defined⟩
  · rintro ⟨⟨state, recorded, home, named⟩, defined⟩
    exact ⟨b.id, ⟨state, recorded, home⟩, b.definition, ⟨state, recorded, named, defined⟩, rfl⟩

theorem buildings_ascending (w : World) (options : Options) (city : CityId) :
    ((w.context options).buildings city).Pairwise fun a b => a.id.raw < b.id.raw := by
  apply List.pairwise_filterMap.mpr
  apply (w.constructiblesOf_ascending city).imp
  intro a b before x hx y hy
  obtain ⟨_, _, rfl⟩ := Option.map_eq_some_iff.mp hx
  obtain ⟨_, _, rfl⟩ := Option.map_eq_some_iff.mp hy
  exact before

/-- What stands in a city is listed if its type has a definition. -/
theorem exists_building_iff :
    (∃ b ∈ (w.context options).buildings city, b.id = id) ↔
      ∃ state, w.constructibles.get? id = some state ∧ state.city = some city ∧
        ∃ t ∈ w.constructibleTypes, t.name = state.typeName := by
  simp only [mem_buildings_iff]
  constructor
  · rintro ⟨b, ⟨⟨state, recorded, home, named⟩, before, after, split, _⟩, rfl⟩
    have listed : b.definition ∈ w.constructibleTypes := by
      rw [split]
      exact List.mem_append_right before List.mem_cons_self
    exact ⟨state, recorded, home, b.definition, listed, named⟩
  · rintro ⟨state, recorded, home, defined⟩
    obtain ⟨t, found⟩ := exists_definition_iff.mpr defined
    obtain ⟨named, first⟩ := definition_eq_some_iff.mp found
    exact ⟨⟨id, t⟩, ⟨⟨state, recorded, home, named⟩, first⟩, rfl⟩

theorem Houses.of_record (houses : w.Houses city b) {state : ConstructibleState}
    (recorded : w.constructibles.get? b.id = some state) :
    state.city = some city ∧ b.definition.name = state.typeName := by
  obtain ⟨state', recorded', home, named⟩ := houses.recorded
  obtain rfl : state = state' := Option.some.inj (recorded.symm.trans recorded')
  exact ⟨home, named⟩

/-- No constructible is listed in two cities. -/
theorem city_eq_of_houses {city' : CityId} {b' : Building} (houses : w.Houses city b)
    (houses' : w.Houses city' b') (same : b.id = b'.id) : city = city' := by
  obtain ⟨state, recorded, home, _⟩ := houses.recorded
  obtain ⟨home', _⟩ := houses'.of_record (same ▸ recorded)
  exact Option.some.inj (home.symm.trans home')

/-- A rule is linked to a type. -/
def Links (w : World) (rule type : DataName) : Prop :=
  ∃ types, w.warehouseLinks.get? rule = some types ∧ type ∈ types.keys

theorem linkedTypes_contains_iff {rule type : DataName} :
    (w.linkedTypes rule).contains type = true ↔ w.Links rule type := by
  rw [SortedMap.contains_iff_mem_keys, linkedTypes, Links]
  cases found : w.warehouseLinks.get? rule with
  | none => simp [SortedMap.keys, EmptyCollection.emptyCollection, SortedMap.empty]
  | some types => simp

/-! ## Counting by type -/

theorem countOfType_eq_sum (w : World) (options : Options) (cities : List CityId)
    (name : DataName) :
    (w.context options).countOfType cities name = (cities.map fun c =>
      w.constructibles.entries.countP fun e => e.2.city == some c && e.2.typeName == name).sum := by
  rw [Context.countOfType, List.countP_flatMap]
  congr 1
  apply List.map_congr_left
  intro c _
  have alone : (w.context options).countOfType [c] name = _ := countOfType_context name
  rw [Context.countOfType, List.flatMap_singleton] at alone
  exact alone

/-- The definition of a defined type is listed with every constructible of the type. -/
theorem countP_buildings (defined : ∃ t ∈ w.constructibleTypes, t.name = name)
    (options : Options) (city : CityId) :
    ((w.context options).buildings city).countP (fun b => b.definition.name == name) =
      w.constructibles.entries.countP fun e => e.2.city == some city && e.2.typeName == name := by
  have counted := SortedMap.countP_keysWhere (m := w.constructibles)
    (p := fun _ c => c.city == some city) fun c => c.map (·.typeName) == some name
  refine Eq.trans ?_ counted
  rw [Context.buildings, List.countP_filterMap]
  apply List.countP_congr
  intro id standing
  obtain ⟨state, recorded, _⟩ := mem_constructiblesOf_iff.mp standing
  have looked : (w.context options).definitionOf id = w.definition state.typeName := by
    have found : w.typeName id = some state.typeName := by rw [typeName, recorded, Option.map_some]
    exact congrArg (·.bind w.definition) found
  rw [looked, recorded]
  cases found : w.definition state.typeName with
  | some t =>
    obtain ⟨named, _⟩ := definition_eq_some_iff.mp found
    simp [named]
  | none =>
    have differs : state.typeName ≠ name := by
      rintro rfl
      obtain ⟨t, known⟩ := exists_definition_iff.mpr defined
      cases known.symm.trans found
    simp [differs]

/-! ## Queries -/

theorem first_tagged_iff (w : World) (options : Options) (tag : String) (city : CityId)
    (id : ConstructibleId) :
    (((w.context options).buildings city).find? fun b =>
        (w.context options).hasTag b.definition.name tag).map (·.id) = some id ↔
      (w.context options).FirstTagged tag city id := by
  rw [find?_map_eq_some_iff_least (w.buildings_ascending options city)]
  constructor
  · rintro ⟨listed, least⟩
    exact ⟨listed, least⟩
  · rintro ⟨listed, least⟩
    exact ⟨listed, least⟩

/-- A context answers all questions about the buildings of cities from one listing, and the listing
is what the records of a world say. -/
structure ListsBuildings (w : World) (ctx : Context) : Prop where
  ascending : ∀ city, (ctx.buildings city).Pairwise fun a b => a.id.raw < b.id.raw
  listed : ∀ city b, b ∈ ctx.buildings city ↔ w.Houses city b
  /-- Nothing is left out but what has no definition. -/
  complete : ∀ city id, (∃ b ∈ ctx.buildings city, b.id = id) ↔
    ∃ state, w.constructibles.get? id = some state ∧ state.city = some city ∧
      ∃ t ∈ w.constructibleTypes, t.name = state.typeName
  /-- One number for each city in which something carries the tag, however often it is asked of. -/
  withTag : ∀ cities tag ids, ids = ctx.buildingsWithTag cities tag ↔
    InTurn (ctx.FirstTagged tag) cities ids
  ofType : ∀ cities name, ctx.countOfType cities name = (cities.map fun c =>
    w.constructibles.entries.countP fun e => e.2.city == some c && e.2.typeName == name).sum
  ofDefinedType : ∀ cities name, (∃ t ∈ w.constructibleTypes, t.name = name) →
    ctx.countOfType cities name = (cities.map fun c =>
      (ctx.buildings c).countP fun b => b.definition.name == name).sum
  withAdjacency : ∀ city adjacency ids, ids = ctx.buildingsWithAdjacency city adjacency ↔
    InTurn (fun b id => b.id = id ∧ adjacency ∈ b.definition.adjacencies)
      (ctx.buildings city) ids
  linked : ∀ city (r : Warehouse.Rule) ids, ids = r.linkedBuildings ctx city ↔
    InTurn (fun b id => b.id = id ∧ w.Links r.id b.definition.name) (ctx.buildings city) ids
  apart : ∀ city city' b b', b ∈ ctx.buildings city → b' ∈ ctx.buildings city' →
    city ≠ city' → b.id ≠ b'.id

/-- In every world the questions about buildings are views of one listing of each city, which has
every constructible of the city whose type is defined, and listings of different cities have no
constructible in common. -/
theorem building_queries_view_one_listing (w : World) (options : Options) :
    w.ListsBuildings (w.context options) where
  ascending := w.buildings_ascending options
  listed city b := mem_buildings_iff
  complete city id := exists_building_iff
  withTag cities tag ids := eq_filterMap_iff (w.first_tagged_iff options tag)
  ofType := w.countOfType_eq_sum options
  ofDefinedType cities name defined := by
    rw [countOfType_eq_sum]
    simp only [countP_buildings defined]
  withAdjacency city adjacency ids := by
    rw [Context.buildingsWithAdjacency, eq_map_filter_iff]
    simp only [ConstructibleType.hasAdjacency, List.contains_iff_mem]
  linked city r ids := by
    have types : (w.context options).catalog.linkedTypes r.id = w.linkedTypes r.id := rfl
    rw [Warehouse.Rule.linkedBuildings, eq_map_filter_iff, types]
    simp only [linkedTypes_contains_iff]
  apart city city' b b' listed listed' differs same :=
    differs (city_eq_of_houses (mem_buildings_iff.mp listed) (mem_buildings_iff.mp listed') same)

end World

namespace Harbour

/-- The harbour with a buoy of a type that is not defined. The fisheries are defined and tagged. -/
def town : World :=
  { world with
    constructibles := world.constructibles.insert ⟨3⟩ ⟨"IMPROVEMENT_BUOY", .origin, city, false⟩
    constructibleTypes := [.ofName "IMPROVEMENT_FISHERY"]
    tags := Tags.ofRows [("IMPROVEMENT_BUOY", "FOOD"), ("IMPROVEMENT_FISHERY", "FOOD")] }

def townBuildings : List Building :=
  [⟨⟨7⟩, .ofName "IMPROVEMENT_FISHERY"⟩, ⟨⟨8⟩, .ofName "IMPROVEMENT_FISHERY"⟩]

/-- The buoy comes before the fisheries and is tagged, but it is not listed and only counted. -/
theorem building_queries_view_one_listing_harbour :
    (town.context .default).buildings city = townBuildings ∧
    (town.context .default).buildingsWithTag [city, ⟨9⟩, city] "FOOD" = [⟨7⟩, ⟨7⟩] ∧
    (town.context .default).countOfType [city, city] "IMPROVEMENT_BUOY" = 1 + (1 + 0) ∧
    (town.context .default).countOfType [city, city] "IMPROVEMENT_FISHERY" = 2 + (2 + 0) := by
  have views := World.building_queries_view_one_listing town .default
  have listing : (town.context .default).buildings city = townBuildings := by rfl
  have elsewhere : (town.context .default).buildings ⟨9⟩ = [] := by rfl
  refine ⟨listing, ?_, views.ofType .., ?_⟩
  · have first : (town.context .default).FirstTagged "FOOD" city ⟨7⟩ := by
      constructor
      · rw [listing]
        exact ⟨_, List.mem_cons_self, rfl, by rfl⟩
      · rw [listing]
        decide
    have none (id : ConstructibleId) :
        ¬ (town.context .default).FirstTagged "FOOD" ⟨9⟩ id := by
      rintro ⟨⟨b, listed, _⟩, _⟩
      rw [elsewhere] at listed
      cases listed
    exact ((views.withTag _ _ _).mpr
      (.shown first (.passed none (.shown first .done)))).symm
  · have counted := views.ofDefinedType [city, city] "IMPROVEMENT_FISHERY"
      ⟨.ofName "IMPROVEMENT_FISHERY", List.mem_cons_self, rfl⟩
    rw [List.map_cons, List.map_cons, listing] at counted
    exact counted

end Harbour

end YieldRules
