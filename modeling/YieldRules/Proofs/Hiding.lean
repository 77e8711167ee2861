import YieldRules.Proofs.Precedence
import YieldRules.Proofs.Standing
import YieldRules.Upkeep
import YieldRules.Warehouse.Amount
import Mathlib.Data.List.Flatten

/-!
# Hiding constructibles

A world may hide any of its constructibles. Cities do not notice: all that is
asked about what stands in a city counts hidden constructibles, and so does the
test for defects. Only the map shows less, and never more: fewer plots are
built on, so fewer are offered a second time and fewer meet a condition.
-/

namespace YieldRules

namespace Context

variable {ctx : Context} {visible : Location → List ConstructibleId}
variable {test : PlayerId → Subject → Requirement → Bool}

/-- The context with another view of what stands on the map, and tests that may depend on it. -/
def seeing (ctx : Context) (visible : Location → List ConstructibleId)
    (test : PlayerId → Subject → Requirement → Bool) : Context :=
  { ctx with
    world := { ctx.world with visibleConstructibles := visible }
    rules := { ctx.rules with satisfied := test } }

/-- Whatever is asked about cities has the same answer in two contexts. -/
structure SameInCities (ctx ctx' : Context) : Prop where
  buildings : ∀ city, ctx'.buildings city = ctx.buildings city
  buildingsWithTag : ∀ cities tag,
    ctx'.buildingsWithTag cities tag = ctx.buildingsWithTag cities tag
  countOfType : ∀ cities name, ctx'.countOfType cities name = ctx.countOfType cities name
  count : ∀ cities m, ctx'.count cities m = ctx.count cities m
  countForPlayer : ∀ player m, ctx'.countForPlayer player m = ctx.countForPlayer player m
  buildingsWithAdjacency : ∀ city adjacency,
    ctx'.buildingsWithAdjacency city adjacency = ctx.buildingsWithAdjacency city adjacency
  linkedBuildings : ∀ city (r : Warehouse.Rule),
    r.linkedBuildings ctx' city = r.linkedBuildings ctx city
  saving : ∀ city definition m, ctx'.saving city definition m = ctx.saving city definition m
  amount : ∀ city (r : Warehouse.Rule) name, r.First (.constructible name) →
    r.amount ctx' city = r.amount ctx city
  candidates : ∀ player parent collection, collection ≠ .playerPlots →
    ctx'.candidates player parent collection = ctx.candidates player parent collection

/-- The map of the second context shows no more than that of the first. -/
structure LessOnMap (ctx ctx' : Context) : Prop where
  builtPlots : ∀ city, (ctx'.builtPlots city).Sublist (ctx.builtPlots city)
  count : ∀ city (c : Warehouse.Condition), c.count ctx' city ≤ c.count ctx city
  playerPlots : ∀ player parent, (ctx'.candidates player parent .playerPlots).Sublist
    (ctx.candidates player parent .playerPlots)
  hasConstructible : ∀ player s r, r.kind = .predicate "REQUIREMENT_PLOT_HAS_CONSTRUCTIBLE" →
    ctx'.rules.satisfied player s r = true → ctx.rules.satisfied player s r = true

/-- Nothing that is asked about cities looks at the map. -/
theorem sameInCities_seeing : ctx.SameInCities (ctx.seeing visible test) where
  buildings _ := rfl
  buildingsWithTag _ _ := rfl
  countOfType _ _ := rfl
  count _ _ := rfl
  countForPlayer _ _ := rfl
  buildingsWithAdjacency _ _ := rfl
  linkedBuildings _ _ := rfl
  saving _ _ _ := rfl
  amount city r name first := by
    rw [Warehouse.Rule.amount, Warehouse.Rule.amount,
      Warehouse.Rule.condition?_eq_some_iff.mpr first]
    rfl
  candidates player parent collection other := by
    cases collection with
    | playerPlots => exact False.elim (other rfl)
    | _ => rfl

section

variable (less : ∀ l, (visible l).Sublist (ctx.world.visibleConstructibles l))
include less

theorem builtPlots_seeing (city : CityId) :
    ((ctx.seeing visible test).builtPlots city).Sublist (ctx.builtPlots city) := by
  apply List.monotone_filter_right _
  intro p built
  have built : (visible p.2).isEmpty = false := by simpa [seeing] using built
  obtain ⟨c, standing⟩ := List.exists_mem_of_ne_nil _ (List.isEmpty_eq_false_iff.mp built)
  have shown : c ∈ ctx.world.visibleConstructibles p.2 := (less p.2).mem standing
  simpa using List.ne_nil_of_mem shown

theorem count_seeing (city : CityId) (c : Warehouse.Condition) :
    c.count (ctx.seeing visible test) city ≤ c.count ctx city := by
  have land : ((ctx.seeing visible test).builtPlots city).countP
      (fun p => c.holdsAt (ctx.seeing visible test) p.2) ≤
        (ctx.builtPlots city).countP fun p => c.holdsAt ctx p.2 := by
    have same (l : Location) : c.holdsAt (ctx.seeing visible test) l = c.holdsAt ctx l := by
      cases c <;> rfl
    simp only [same]
    exact (builtPlots_seeing less city).countP_le
  cases c with
  | constructible name => exact Nat.le_refl _
  | _ => exact land

theorem playerPlots_seeing (player : PlayerId) (parent : Option Subject) :
    ((ctx.seeing visible test).candidates player parent .playerPlots).Sublist
      (ctx.candidates player parent .playerPlots) := by
  apply List.Sublist.flatMap_right _
  intro city _
  refine List.Sublist.append (List.Sublist.refl _) ?_
  exact (builtPlots_seeing less city).map _

end

end Context

namespace World

variable {w : World} {chosen : ConstructibleId → Bool}

/-- The world with some constructibles hidden, besides those that are hidden anyway. -/
def hide (w : World) (chosen : ConstructibleId → Bool) : World :=
  { w with
    constructibles := w.constructibles.mapValues fun id c =>
      { c with hidden := chosen id || c.hidden } }

theorem constructiblesOf_hide (city : CityId) :
    (w.hide chosen).constructiblesOf city = w.constructiblesOf city := by
  rw [constructiblesOf, hide, SortedMap.keysWhere_mapValues]
  rfl

theorem typeName_hide (id : ConstructibleId) : (w.hide chosen).typeName id = w.typeName id := by
  rw [typeName, hide, SortedMap.get?_mapValues, Option.map_map]
  rfl

theorem visibleAt_hide (l : Location) :
    ((w.hide chosen).visibleAt l).Sublist (w.visibleAt l) := by
  rw [visibleAt, hide, SortedMap.keysWhere_mapValues]
  apply SortedMap.keysWhere_sublist
  intro id c visible
  simp only [Bool.not_or, Bool.and_eq_true] at visible ⊢
  exact ⟨visible.1, visible.2.2⟩

/-- As a context the world with hidden constructibles differs in nothing but what the map shows. -/
theorem context_hide (options : Options) :
    (w.hide chosen).context options =
      (w.context options).seeing (w.hide chosen).visibleAt (w.hide chosen).satisfied := by
  have cities : (w.hide chosen).constructiblesOf = w.constructiblesOf :=
    funext constructiblesOf_hide
  have types : (w.hide chosen).typeName = w.typeName := funext typeName_hide
  simp only [context, view, catalog, cities, types]
  rfl

/-- Hiding moves nothing and leaves every constructible with its city. -/
theorem defect?_hide : (w.hide chosen).defect? = w.defect? := by
  have places : (w.hide chosen).placements = w.placements := by
    simp only [placements, hide, SortedMap.mapValues, List.map_map]
    rfl
  have placement : (w.hide chosen).placementDefect? = w.placementDefect? := by
    rw [placementDefect?, places]
    rfl
  have cities : (w.hide chosen).cityDefect? = w.cityDefect? := by
    simp only [cityDefect?, hide, SortedMap.mapValues, List.findSome?_map]
    rfl
  rw [defect?, placement, cities]
  rfl

theorem plotHasConstructible_of_hide {s : Subject} {args : Arguments}
    (holds : (w.hide chosen).plotHasConstructible s args = true) :
    w.plotHasConstructible s args = true := by
  have place : (w.hide chosen).locationOf? s = w.locationOf? s := rfl
  rw [plotHasConstructible, place] at holds
  rw [plotHasConstructible]
  cases located : w.locationOf? s with
  | none => simp [located] at holds
  | some l =>
    cases asked : args.value? "ConstructibleType" with
    | none => simp [located, asked] at holds
    | some wanted =>
      simp only [located, asked, List.any_eq_true] at holds ⊢
      obtain ⟨c, standing, named⟩ := holds
      exact ⟨c, (visibleAt_hide l).mem standing, typeName_hide c ▸ named⟩

theorem hasConstructible_of_hide {player : PlayerId} {s : Subject} {r : Requirement}
    (kind : r.kind = .predicate "REQUIREMENT_PLOT_HAS_CONSTRUCTIBLE")
    (holds : (w.hide chosen).satisfied player s r = true) : w.satisfied player s r = true := by
  simp only [satisfied, kind, test] at holds ⊢
  exact plotHasConstructible_of_hide holds

/-- Whatever is asked about cities has the same answer when constructibles are hidden, and the
world has the same defect or none; the map shows no more than before. -/
theorem hide_shows_less_on_map_only (w : World) (chosen : ConstructibleId → Bool)
    (options : Options) :
    (w.context options).SameInCities ((w.hide chosen).context options) ∧
    (w.hide chosen).defect? = w.defect? ∧
    (w.context options).LessOnMap ((w.hide chosen).context options) := by
  rw [context_hide]
  refine ⟨Context.sameInCities_seeing, defect?_hide, ?_⟩
  exact {
    builtPlots := Context.builtPlots_seeing visibleAt_hide
    count := Context.count_seeing visibleAt_hide
    playerPlots := Context.playerPlots_seeing visibleAt_hide
    hasConstructible := fun _ _ _ kind holds => hasConstructible_of_hide kind holds }

end World

namespace Harbour

/-- A rule for everything of one type that the city has. -/
def fisheryRule : Warehouse.Rule :=
  ⟨"FISHERY", none, 4, none, false, false, false, none, some "IMPROVEMENT_FISHERY", none, none,
    false, false, false, none, none, false, none⟩

/-- The harbour with its last visible fishery hidden. -/
def closed : World :=
  world.hide fun id => id == ⟨7⟩

/-- The pier is no longer built on, but the city still has both of its fisheries. -/
theorem hide_shows_less_on_map_only_harbour :
    ((closed.context .default).candidates .first none .playerPlots).Sublist
      ((world.context .default).candidates .first none .playerPlots) ∧
    ((closed.context .default).candidates .first none .playerPlots).length = 3 ∧
    ((world.context .default).candidates .first none .playerPlots).length = 5 ∧
    (closed.context .default).candidates .first none .allCities =
      (world.context .default).candidates .first none .allCities ∧
    (closed.context .default).countOfType [city] "IMPROVEMENT_FISHERY" = 2 ∧
    fisheryRule.amount (closed.context .default) city =
      fisheryRule.amount (world.context .default) city ∧
    closed.defect? = none := by
  obtain ⟨same, defect, less⟩ :=
    World.hide_shows_less_on_map_only world (fun id => id == ⟨7⟩) .default
  have first : fisheryRule.First (.constructible "IMPROVEMENT_FISHERY") :=
    Warehouse.Rule.condition?_eq_some_iff.mp rfl
  exact ⟨less.playerPlots .first none, by rfl, by rfl,
    same.candidates .first none .allCities (by simp), same.countOfType [city] _,
    same.amount city fisheryRule _ first, defect.trans world_sound⟩

end Harbour

end YieldRules
