import YieldRules.Proofs.SoundWorld
import YieldRules.Resolution
import YieldRules.Upkeep
import YieldRules.Warehouse.Amount

/-!
# Listings as keyed tables

The plots of a map and the types of a world are lists in which the first record
of a location or of a name counts. So later records of the same key have no
meaning, and neither has the order of records of different keys: whatever is
asked of the world has the same answer when repeats are dropped and what is left
is listed in another order. Nor does the world gain or lose a defect.
-/

namespace YieldRules

/-! ## The first item of each key -/

section

variable {α β κ : Type} [DecidableEq κ] {key : α → κ} {xs ys : List α} {x : α} {k : κ}

/-- The items of a list whose key no earlier item has. -/
def firstOfEach (key : α → κ) : List α → List α
  | [] => []
  | x :: xs => x :: (firstOfEach key xs).filter fun y => key y ≠ key x

theorem findSome?_filter_of_none {f : α → Option β} {p : α → Bool}
    (dropped : ∀ x, p x = false → f x = none) (xs : List α) :
    (xs.filter p).findSome? f = xs.findSome? f := by
  induction xs with
  | nil => rfl
  | cons x xs ih =>
    cases passes : p x with
    | true =>
      rw [List.filter_cons_of_pos passes, List.findSome?_cons, List.findSome?_cons, ih]
    | false =>
      have fails : ¬ p x = true := by rw [passes]; exact Bool.false_ne_true
      rw [List.filter_cons_of_neg fails, ih, List.findSome?_cons, dropped x passes]

/-- A search that passes over all items of a key or over none stops at a first item. -/
theorem findSome?_firstOfEach {f : α → Option β}
    (byKey : ∀ x y, key y = key x → f x = none → f y = none) (xs : List α) :
    (firstOfEach key xs).findSome? f = xs.findSome? f := by
  induction xs with
  | nil => rfl
  | cons x xs ih =>
    rw [firstOfEach, List.findSome?_cons, List.findSome?_cons]
    cases here : f x with
    | some b => rfl
    | none =>
      have hidden : ∀ y, decide (key y ≠ key x) = false → f y = none := by
        intro y repeated
        exact byKey x y (not_not.mp (of_decide_eq_false repeated)) here
      exact (findSome?_filter_of_none hidden _).trans ih

theorem find?_firstOfEach (xs : List α) (k : κ) :
    (firstOfEach key xs).find? (fun x => key x == k) = xs.find? fun x => key x == k := by
  rw [← List.findSome?_guard, ← List.findSome?_guard]
  apply findSome?_firstOfEach
  intro x y same missed
  rw [Option.guard_eq_none_iff] at missed ⊢
  rw [same]
  exact missed

theorem keys_firstOfEach_nodup (xs : List α) : ((firstOfEach key xs).map key).Nodup := by
  induction xs with
  | nil => exact List.nodup_nil
  | cons x xs ih =>
    rw [firstOfEach, List.map_cons, List.nodup_cons]
    constructor
    · intro listed
      obtain ⟨y, kept, same⟩ := List.mem_map.mp listed
      exact of_decide_eq_true (List.mem_filter.mp kept).2 same
    · exact ih.sublist (List.filter_sublist.map key)

theorem find?_of_perm (distinct : (xs.map key).Nodup) (reordered : ys.Perm xs) (k : κ) :
    ys.find? (fun x => key x == k) = xs.find? fun x => key x == k := by
  have distinct' : (ys.map key).Nodup := (reordered.map key).nodup_iff.mpr distinct
  apply Option.ext
  intro x
  rw [find?_eq_some_iff_of_nodup distinct', find?_eq_some_iff_of_nodup distinct,
    reordered.mem_iff]

/-- Neither repeats nor the order of what is left count in a search by key. -/
theorem find?_relisted (reordered : ys.Perm (firstOfEach key xs)) (k : κ) :
    ys.find? (fun x => key x == k) = xs.find? fun x => key x == k :=
  (find?_of_perm (keys_firstOfEach_nodup xs) reordered k).trans (find?_firstOfEach xs k)

end

namespace World

variable {w : World} {plots : List PlotState} {types : List ConstructibleType}

/-- The world with other listings of its plots and its types. -/
def relisted (w : World) (plots : List PlotState) (types : List ConstructibleType) : World :=
  { w with map := { w.map with plots }, constructibleTypes := types }

/-- The world without the records of plots and of types that an earlier one hides. -/
def withoutRepeats (w : World) : World :=
  w.relisted (firstOfEach (·.location) w.map.plots) (firstOfEach (·.name) w.constructibleTypes)

/-- Plots and types enter an evaluation by their look-ups only. -/
theorem context_relisted (samePlots : (w.relisted plots types).map.plotAt? = w.map.plotAt?)
    (sameTypes : (w.relisted plots types).definition = w.definition) (options : Options) :
    (w.relisted plots types).context options = w.context options := by
  have view : (w.relisted plots types).view = w.view := by
    simp only [World.view]
    unfold isLake isRiver isNavigableRiver isNaturalWonder biome feature terrain resource route
    rw [samePlots]
    rfl
  have catalog : (w.relisted plots types).catalog = w.catalog := by
    simp only [World.catalog, sameTypes]
    rfl
  have satisfied : (w.relisted plots types).satisfied = w.satisfied := by
    unfold World.satisfied test isLake terrain biome
    rw [samePlots]
    rfl
  simp only [context, view, catalog, rules, satisfied]
  rfl

/-- A world lists the same plots and the same types as another one, up to repeats and order. -/
structure Relists (w : World) (plots : List PlotState) (types : List ConstructibleType) :
    Prop where
  plots : plots.Perm w.withoutRepeats.map.plots
  types : types.Perm w.withoutRepeats.constructibleTypes

theorem withoutRepeats_relists (w : World) :
    w.Relists w.withoutRepeats.map.plots w.withoutRepeats.constructibleTypes :=
  ⟨List.Perm.refl _, List.Perm.refl _⟩

theorem Relists.context (relists : w.Relists plots types) (options : Options) :
    (w.relisted plots types).context options = w.context options :=
  context_relisted (funext fun l => find?_relisted relists.plots l)
    (funext fun name => find?_relisted relists.types name) options

/-! ## Defects -/

/-- Of several records of one location the first is checked, and the others are where it is. -/
theorem placementDefect?_withoutRepeats :
    w.withoutRepeats.placementDefect? = w.placementDefect? := by
  have plots : w.withoutRepeats.map.plots = firstOfEach (·.location) w.map.plots := rfl
  simp only [placementDefect?, placements, List.append_assoc, List.findSome?_append,
    List.findSome?_map, plots]
  rw [findSome?_firstOfEach]
  · rfl
  · intro x y same missed
    simpa [same] using missed

theorem defect?_withoutRepeats : w.withoutRepeats.defect? = w.defect? := by
  rw [defect?, placementDefect?_withoutRepeats]
  rfl

theorem Relists.mem_placements (relists : w.Relists plots types) (p : Placed × Location) :
    p ∈ (w.relisted plots types).placements ↔ p ∈ w.withoutRepeats.placements := by
  simp only [placements, List.mem_append, List.mem_map, relisted, relists.plots.mem_iff]
  rfl

theorem Relists.defect?_eq_none_iff (relists : w.Relists plots types) :
    (w.relisted plots types).defect? = none ↔ w.defect? = none := by
  rw [← defect?_withoutRepeats (w := w), World.defect?_eq_none_iff, World.defect?_eq_none_iff,
    placementDefect?_eq_none_iff, placementDefect?_eq_none_iff]
  simp only [relists.mem_placements]
  rfl

end World

/-- Whatever is asked has the same answer in two contexts. -/
structure Context.SameAnswers (ctx ctx' : Context) : Prop where
  isEligible : ∀ player subject requirements,
    ctx'.isEligible player subject requirements = ctx.isEligible player subject requirements
  subjects : ∀ player m parent, ctx'.subjects player m parent = ctx.subjects player m parent
  buildings : ∀ city, ctx'.buildings city = ctx.buildings city
  buildingsWithTag : ∀ cities tag,
    ctx'.buildingsWithTag cities tag = ctx.buildingsWithTag cities tag
  countOfType : ∀ cities name, ctx'.countOfType cities name = ctx.countOfType cities name
  count : ∀ cities m, ctx'.count cities m = ctx.count cities m
  buildingsWithAdjacency : ∀ city adjacency,
    ctx'.buildingsWithAdjacency city adjacency = ctx.buildingsWithAdjacency city adjacency
  saving : ∀ city definition m, ctx'.saving city definition m = ctx.saving city definition m
  amount : ∀ city (r : Warehouse.Rule), r.amount ctx' city = r.amount ctx city
  linkedBuildings : ∀ city (r : Warehouse.Rule),
    r.linkedBuildings ctx' city = r.linkedBuildings ctx city

theorem Context.SameAnswers.refl (ctx : Context) : ctx.SameAnswers ctx := by
  constructor <;> intros <;> rfl

/-- Plots and types are listed as if in tables: to drop the records that an earlier one hides, and
to list the others in any order, changes no answer and neither adds nor removes a defect. The defect
that is found first stays the same when records are only dropped. -/
theorem World.answers_of_keyed_listings (w : World) (plots : List PlotState)
    (types : List ConstructibleType) (samePlots : plots.Perm w.withoutRepeats.map.plots)
    (sameTypes : types.Perm w.withoutRepeats.constructibleTypes) :
    (∀ options, (w.context options).SameAnswers (w.withoutRepeats.context options) ∧
      (w.context options).SameAnswers
        ((w.withoutRepeats.relisted plots types).context options)) ∧
    w.withoutRepeats.defect? = w.defect? ∧
    ((w.withoutRepeats.relisted plots types).defect? = none ↔ w.defect? = none) := by
  have dropped := w.withoutRepeats_relists
  have relists : w.Relists plots types := ⟨samePlots, sameTypes⟩
  refine ⟨?_, defect?_withoutRepeats, relists.defect?_eq_none_iff⟩
  intro options
  constructor
  · have same : w.withoutRepeats.context options = w.context options := dropped.context options
    rw [same]
    exact .refl _
  · have same : (w.withoutRepeats.relisted plots types).context options = w.context options :=
      relists.context options
    rw [same]
    exact .refl _

namespace Harbour

def fishery : ConstructibleType :=
  .ofName "IMPROVEMENT_FISHERY"

def shore : PlotState :=
  ⟨.origin, some "TERRAIN_FLAT", none, none, none, none, false, .none, false⟩

/-- The harbour with more records: its lake is listed twice and so is the fishery, which the second
time is of an age. -/
def catalogued : World :=
  world.relisted (plots ++ [shore]) [fishery, .ofName "BUILDING_WHARF", fishery.inAge "AGE_MODERN"]

/-- One for each plot of the coast that is built on. -/
def tidalRule : Warehouse.Rule :=
  ⟨"TIDE", none, 4, none, false, false, false, none, none, none, none, false, false, false,
    some "TERRAIN_COAST", none, false, none⟩

/-- The land first, and the wharf before the fishery. -/
def recatalogued : World :=
  catalogued.withoutRepeats.relisted (shore :: plots.take 1) [.ofName "BUILDING_WHARF", fishery]

theorem answers_of_keyed_listings_harbour :
    (recatalogued.context .default).buildings city = (catalogued.context .default).buildings city ∧
    ((recatalogued.context .default).buildings city).map (·.definition) = [fishery, fishery] ∧
    tidalRule.amount (recatalogued.context .default) city =
      tidalRule.amount (catalogued.context .default) city ∧
    recatalogued.defect? = none := by
  have plots : (shore :: Harbour.plots.take 1).Perm catalogued.withoutRepeats.map.plots :=
    List.Perm.swap ..
  have types : [ConstructibleType.ofName "BUILDING_WHARF", fishery].Perm
      catalogued.withoutRepeats.constructibleTypes :=
    List.Perm.swap ..
  obtain ⟨answers, _, defects⟩ := World.answers_of_keyed_listings catalogued _ _ plots types
  have same := (answers .default).2
  have sound : catalogued.defect? = none := by decide
  exact ⟨same.buildings city, by rfl, same.amount city tidalRule, defects.mpr sound⟩

/-- Which of two defects is found first depends on the order. -/
example :
    (world.relisted [⟨⟨5, 0⟩, none, none, none, none, none, false, .none, false⟩,
      ⟨⟨6, 0⟩, none, none, none, none, none, false, .none, false⟩] []).defect? ≠
    (world.relisted [⟨⟨6, 0⟩, none, none, none, none, none, false, .none, false⟩,
      ⟨⟨5, 0⟩, none, none, none, none, none, false, .none, false⟩] []).defect? := by
  decide

end Harbour

end YieldRules
