import YieldRules.Proofs.Precedence
import YieldRules.Proofs.SoundWorld
import YieldRules.Warehouse.Amount

/-!
# Warehouse amounts as direct counts

The amount of a rule is read off the records of a world: it is the change of
the rule times the number of purchased plots that are built on and meet its
condition, each as often as the city lists it. Plots are numbered on the way to
their records and located again, which leaves no trace in a world without
defects.
-/

namespace YieldRules

open Warehouse

/-- What the record of a plot says about a condition on land. -/
def PlotState.meets (tags : Tags) (p : PlotState) : Condition → Bool
  | .lake => p.lake
  | .minorRiver => p.river == .minor
  | .navigableRiver => p.river == .navigable
  | .biome name => p.biome == some name
  | .feature name => p.feature.map (·.name) == some name
  | .featureClass name => p.feature.bind (·.featureClass) == some name
  | .naturalWonder => p.naturalWonder
  | .resource => p.resource.isSome
  | .route => p.route.isSome
  | .terrain name => p.terrain == some name
  | .terrainTag tag => p.terrain.any (tags.has · tag)
  | .constructible _ | .overbuilt | .district _ => false

namespace World

/-- Something that is not hidden stands at a location, whatever city it belongs to. -/
def builtAt (w : World) (l : Location) : Bool :=
  w.constructibles.entries.any fun e => e.2.location == l && !e.2.hidden

/-- The first record of a location meets a condition on land. -/
def meetsAt (w : World) (l : Location) (c : Condition) : Bool :=
  (w.map.plots.find? fun p => p.location == l).any (·.meets w.tags c)

/-- The number of purchased plots of a city that are built on and pass a test, each counted as
often as the city lists it. -/
def builtCount (w : World) (city : CityId) (q : Location → Bool) : Nat :=
  match w.cities.get? city with
  | some state => state.purchasedPlots.countP fun l => w.builtAt l && q l
  | none => 0

/-- How often a city meets a condition, by the records of the world. -/
def directCount (w : World) (city : CityId) : Condition → Nat
  | .constructible name =>
    w.constructibles.entries.countP fun e => e.2.city == some city && e.2.typeName == name
  | .overbuilt | .district _ => 0
  | c => w.builtCount city (w.meetsAt · c)

variable {w : World} {options : Options} {city : CityId} {l : Location}

theorem holdsAt_context (c : Condition) : c.holdsAt (w.context options) l = w.meetsAt l c := by
  have record : w.map.plotAt? l = w.map.plots.find? fun p => p.location == l := rfl
  cases found : w.map.plots.find? fun p => p.location == l with
  | none =>
    cases c <;> simp [Condition.holdsAt, meetsAt, context, view, isLake, isRiver,
      isNavigableRiver, isNaturalWonder, biome, feature, terrain, resource, route, record, found]
  | some p =>
    cases c with
    | minorRiver =>
      cases river : p.river <;> simp [Condition.holdsAt, meetsAt, context, view, isRiver,
        isNavigableRiver, PlotState.meets, record, found, river]
    | feature name | featureClass name =>
      cases land : p.feature <;> simp [Condition.holdsAt, meetsAt, context, view, feature,
        PlotState.meets, record, found, land]
    | _ => simp [Condition.holdsAt, meetsAt, context, view, isLake, isNavigableRiver,
        isNaturalWonder, biome, terrain, resource, route, PlotState.meets, record, found]

theorem visibleAt_isEmpty : (w.visibleAt l).isEmpty = !w.builtAt l := by
  rw [Bool.eq_iff_iff]
  simp [visibleAt, builtAt, SortedMap.keysWhere]

/-- Built plots are counted at the locations where they were purchased. -/
theorem countP_builtPlots (sound : w.defect? = none) (options : Options) (city : CityId)
    (q : Location → Bool) :
    ((w.context options).builtPlots city).countP (fun p => q p.2) = w.builtCount city q := by
  have purchased : (w.context options).world.purchasedPlots city = w.purchasedPlots city := rfl
  cases listed : w.cities.get? city with
  | none => simp [Context.builtPlots, builtCount, purchased, purchasedPlots, listed]
  | some state =>
    simp only [Context.builtPlots, builtCount, purchased, purchasedPlots, listed,
      List.countP_filter, List.countP_map]
    refine List.countP_congr fun l bought => ?_
    have there : (w.context options).world.plotLocation (w.map.indexOf l) = l :=
      locationOf_purchased sound listed bought
    have visible : (w.context options).world.visibleConstructibles l = w.visibleAt l := rfl
    simp only [Function.comp_apply, there, visible, visibleAt_isEmpty, Bool.not_not,
      Bool.and_comm]

theorem countOfType_context (name : DataName) :
    (w.context options).countOfType [city] name = w.directCount city (.constructible name) := by
  have counted := SortedMap.countP_keysWhere (m := w.constructibles)
    (p := fun _ c => c.city == some city) fun c => c.map (·.typeName) == some name
  have flat : [city].flatMap (w.context options).world.cityConstructibles =
      w.constructibles.keysWhere fun _ c => c.city == some city := List.flatMap_singleton ..
  rw [Context.countOfType, flat]
  exact counted.trans (by simp [directCount])

theorem count_context (sound : w.defect? = none) (c : Condition) :
    c.count (w.context options) city = w.directCount city c := by
  have land : ((w.context options).builtPlots city).countP
      (fun p => c.holdsAt (w.context options) p.2) = w.builtCount city (w.meetsAt · c) := by
    simpa only [holdsAt_context] using countP_builtPlots sound options city (w.meetsAt · c)
  cases c with
  | constructible name => exact countOfType_context name
  | overbuilt | district name => simp [Condition.count, Condition.holdsAt, directCount]
  | _ => exact land

end World

/-- In a world without defects a rule grants its change for everything in the records that meets
its first populated condition, and nothing if no condition is populated. Every rule is of one of
these kinds, and what it populates behind its first condition has no influence. -/
theorem Warehouse.Rule.amount_eq_direct_count (w : World) (sound : w.defect? = none)
    (options : Options) (city : CityId) (r : Rule) :
    (∀ c, r.First c → r.amount (w.context options) city =
      Float.ofNat (w.directCount city c) * r.change) ∧
    ((∀ c, ¬ r.Populates c) → r.amount (w.context options) city = 0) ∧
    ((∃ c, r.First c) ∨ ∀ c, ¬ r.Populates c) ∧
    (∀ (other : Rule) c, r.First c →
      (∀ d, d.rank ≤ c.rank → (other.Populates d ↔ r.Populates d)) → other.change = r.change →
      other.amount (w.context options) city = r.amount (w.context options) city) := by
  have counted (r : Rule) (c : Condition) (first : r.First c) :
      r.amount (w.context options) city = Float.ofNat (w.directCount city c) * r.change := by
    simp only [Rule.amount, Rule.condition?_eq_some_iff.mpr first, World.count_context sound]
  refine ⟨counted r, fun unpopulated => ?_, ?_, fun other c first agree change => ?_⟩
  · simp only [Rule.amount, Rule.condition?_eq_none_iff.mpr unpopulated]
  · cases h : r.condition? with
    | none => exact Or.inr (Rule.condition?_eq_none_iff.mp h)
    | some c => exact Or.inl ⟨c, Rule.condition?_eq_some_iff.mp h⟩
  · rw [counted r c first, counted other c (first.of_agree agree), change]

namespace Harbour

/-- A rule for coasts. The empty biome in front of the terrain populates nothing, and the flag
behind it does not count. -/
def coastRule : Rule :=
  ⟨"COAST", none, 2, none, false, false, false, some "", none, none, none, false, false, false,
    some "TERRAIN_COAST", none, true, none⟩

theorem amount_eq_direct_count_harbour :
    coastRule.First (.terrain "TERRAIN_COAST") ∧
    coastRule.amount (world.context .default) city = Float.ofNat 2 * 2 := by
  have first : coastRule.First (.terrain "TERRAIN_COAST") :=
    Rule.condition?_eq_some_iff.mp rfl
  have count : world.directCount city (.terrain "TERRAIN_COAST") = 2 := by rfl
  have amount := (Rule.amount_eq_direct_count world world_sound .default city coastRule).1 _ first
  rw [count] at amount
  exact ⟨first, amount⟩

end Harbour

end YieldRules
