import YieldRules.Proofs.Filtering
import YieldRules.Proofs.Precedence
import YieldRules.Proofs.Standing
import YieldRules.Warehouse.Amount
import Mathlib.Algebra.BigOperators.Group.List.Basic

/-!
# Built plots, counted in two ways

Modifiers reach every purchased plot of a player once and the built ones a
second time, while a city as parent offers each purchased plot once. So what a
requirement on land finds in excess of that is what a warehouse rule for the
same property counts, in any world.
-/

namespace YieldRules

open Warehouse

/-- A requirement and a warehouse condition ask for the same property of land. -/
inductive Requirement.AsksFor (r : Requirement) : Condition → Prop where
  | lake (kind : r.kind = .predicate "REQUIREMENT_PLOT_IS_LAKE") : AsksFor r .lake
  | terrain {name : DataName} (kind : r.kind = .predicate "REQUIREMENT_PLOT_TERRAIN_TYPE_MATCHES")
      (named : r.arguments.value? "TerrainType" = some name) : AsksFor r (.terrain name)
  | biome {name : DataName} (kind : r.kind = .predicate "REQUIREMENT_PLOT_BIOME_TYPE_MATCHES")
      (named : r.arguments.value? "BiomeType" = some name) : AsksFor r (.biome name)

section

variable {w : World} {options : Options} {player : PlayerId} {city : CityId} {p : PlotIndex}
variable {r : Requirement} {c : Condition}

theorem Requirement.AsksFor.isTest (asks : r.AsksFor c) : ∃ name, r.kind = .predicate name := by
  cases asks with
  | lake kind | terrain kind | biome kind => exact ⟨_, kind⟩

/-- A plot satisfies the requirement where its location meets the condition. -/
theorem Requirement.AsksFor.satisfied_plot (asks : r.AsksFor c) (w : World) (options : Options)
    (player : PlayerId) (city : CityId) (p : PlotIndex) :
    w.satisfied player (.plot city p) r =
      c.holdsAt (w.context options) (w.map.locationOf p) := by
  cases asks with
  | lake kind => simp only [World.satisfied, kind]; rfl
  | terrain kind named =>
    simp only [World.satisfied, kind, World.test, World.plotMatches, named]; rfl
  | biome kind named =>
    simp only [World.satisfied, kind, World.test, World.plotMatches, named]; rfl

/-- Only one of some distinct keys contributes to a count. -/
theorem countP_flatMap_of_key {κ α : Type} [DecidableEq κ] {keys : List κ} {k : κ}
    {f : κ → List α} {q : α → Bool} (distinct : keys.Nodup) (listed : k ∈ keys)
    (elsewhere : ∀ other, other ≠ k → other ∈ keys → (f other).countP q = 0) :
    (keys.flatMap f).countP q = (f k).countP q := by
  have single := List.sum_map_eq_nsmul_single k (List.countP q ∘ f) elsewhere
  rw [List.countP_flatMap, single, List.count_eq_one_of_mem distinct listed, one_nsmul,
    Function.comp_apply]

namespace World

theorem citiesOf_nodup (w : World) (player : PlayerId) : (w.citiesOf player).Nodup :=
  w.cities.keysWhere_nodup _

theorem mem_citiesOf {state : CityState} (listed : w.cities.get? city = some state)
    (owned : state.owner = player) : city ∈ w.citiesOf player :=
  mem_citiesOf_iff.mpr ⟨state, listed, owned⟩

end World

namespace Context

variable {ctx : Context}

/-- All plots that a city contributes belong to it. -/
theorem city?_of_contributed {s : Subject}
    (contributed : s ∈ ctx.purchasedSubjects city ++ ctx.builtSubjects city) :
    s.city? = some city := by
  rcases List.mem_append.mp contributed with purchased | built
  · obtain ⟨p, _, rfl⟩ := List.mem_map.mp purchased
    rfl
  · obtain ⟨p, _, rfl⟩ := List.mem_map.mp built
    rfl

theorem countP_plots_of_city (ctx : Context) (city : CityId) (q : Subject → Bool) :
    (ctx.purchasedSubjects city ++ ctx.builtSubjects city).countP
        (fun s => s.city? == some city && q s) =
      (ctx.purchasedSubjects city).countP q + (ctx.builtSubjects city).countP q := by
  rw [← List.countP_append]
  refine List.countP_congr fun s contributed => ?_
  simp [city?_of_contributed contributed]

theorem countP_plots_of_other (ctx : Context) (q : Subject → Bool) {other : CityId}
    (differs : other ≠ city) :
    (ctx.purchasedSubjects other ++ ctx.builtSubjects other).countP
      (fun s => s.city? == some city && q s) = 0 := by
  refine List.countP_eq_zero.mpr fun s contributed => ?_
  simp [city?_of_contributed contributed, differs]

end Context

theorem countP_builtSubjects (asks : r.AsksFor c) :
    ((w.context options).builtSubjects city).countP (fun s => w.satisfied player s r) =
      ((w.context options).builtPlots city).countP
        fun p => c.holdsAt (w.context options) p.2 := by
  rw [Context.builtSubjects, List.countP_map]
  refine List.countP_congr fun p built => ?_
  have located : p.2 = w.map.locationOf p.1 := by
    obtain ⟨number, _, rfl⟩ := List.mem_map.mp (List.mem_of_mem_filter built)
    rfl
  simp only [Function.comp_apply, asks.satisfied_plot w options player, located]

/-- The plots of a player in one city are the purchased ones and the built ones. -/
theorem countP_playerPlots (options : Options) (parent : Option Subject)
    (listed : city ∈ w.citiesOf player) (asks : r.AsksFor c) :
    (((w.context options).candidates player parent .playerPlots).filter
        fun s => w.satisfied player s r).countP (fun s => s.city? == some city) =
      (((w.context options).purchasedSubjects city).filter
        fun s => w.satisfied player s r).length +
      ((w.context options).builtPlots city).countP
        fun p => c.holdsAt (w.context options) p.2 := by
  -- The city is listed once, and what other cities contribute belongs to them.
  have ofCity := countP_flatMap_of_key (w.citiesOf_nodup player) listed
    fun other differs _ => (w.context options).countP_plots_of_other
      (fun s => w.satisfied player s r) differs
  rw [List.countP_filter, Context.candidates]
  refine ofCity.trans ?_
  rw [Context.countP_plots_of_city, countP_builtSubjects asks, List.countP_eq_length_filter]

end

/-- For a property of land that a requirement and a warehouse condition both ask for, a rule grants
a city its change for every subject that the plots of the player have in the city beyond those that
the city has as a parent. -/
theorem Warehouse.Rule.amount_of_resolved_plots (w : World) (options : Options)
    {player : PlayerId} {city : CityId} {state : CityState}
    (listed : w.cities.get? city = some state) (owned : state.owner = player)
    {req : Requirement} {c : Condition} (asks : req.AsksFor c) (plain : req.inverse = false)
    {r : Rule} (first : r.First c) {m nested : Modifier} {id id' : Option DataName}
    (collection : m.collection = .playerPlots)
    (requirements : m.subjectRequirements = some ⟨id, .all, [req]⟩)
    (collection' : nested.collection = .cityPlots)
    (requirements' : nested.subjectRequirements = some ⟨id', .all, [req]⟩)
    (parent : Option Subject) (owner : PlayerId) (seat : PlotIndex) :
    ∃ all own,
      (w.context options).subjects player m parent = .ok all ∧
      (w.context options).subjects player nested (some (.city city owner seat)) = .ok own ∧
      own.length ≤ all.countP (fun s => s.city? == some city) ∧
      r.amount (w.context options) city =
        Float.ofNat (all.countP (fun s => s.city? == some city) - own.length) * r.change := by
  obtain ⟨name, kind⟩ := asks.isTest
  have reached := countP_playerPlots options parent (World.mem_citiesOf listed owned) asks
  have amount : r.amount (w.context options) city =
      Float.ofNat (((w.context options).builtPlots city).countP
        fun p => c.holdsAt (w.context options) p.2) * r.change := by
    simp only [Rule.amount, Rule.condition?_eq_some_iff.mpr first]
    cases asks <;> rfl
  refine ⟨_, _, Context.subjects_of_test kind plain requirements,
    Context.subjects_of_test kind plain requirements', ?_, ?_⟩
  · rw [collection, collection']
    exact reached ▸ Nat.le_add_right _ _
  · rw [collection, collection', amount]
    congr 2
    exact (Nat.sub_eq_of_eq_add' reached).symm

namespace Harbour

def lakeRule : Rule :=
  ⟨"LAKE", none, 3, none, true, false, false, none, none, none, none, false, false, false, none,
    none, false, none⟩

/-- The pier is bought twice and built on, so the player has it four times and the city twice. -/
theorem amount_of_resolved_plots_harbour : ∃ all own,
    (world.context .default).subjects .first (onLakes .playerPlots) none = .ok all ∧
    (world.context .default).subjects .first (onLakes .cityPlots)
      (some (.city city .first (world.map.indexOf .origin))) = .ok own ∧
    lakeRule.amount (world.context .default) city = Float.ofNat (4 - 2) * 3 := by
  have listed : world.cities.get? city =
      some ⟨.first, "", .origin, true, [pier, .origin, pier], {}⟩ := rfl
  have first : lakeRule.First .lake := Rule.condition?_eq_some_iff.mp rfl
  obtain ⟨all, own, reached, offered, _, amount⟩ :=
    Rule.amount_of_resolved_plots world .default listed rfl (.lake rfl) rfl first
      (rfl : (onLakes .playerPlots).collection = _) rfl
      (rfl : (onLakes .cityPlots).collection = _) rfl
      none .first (world.map.indexOf .origin)
  have all_eq : all = List.replicate 4 (.plot city (world.map.indexOf pier)) :=
    Except.ok.inj (reached.symm.trans (by rfl))
  have own_eq : own = List.replicate 2 (.plot city (world.map.indexOf pier)) :=
    Except.ok.inj (offered.symm.trans (by rfl))
  rw [all_eq, own_eq] at amount
  exact ⟨all, own, reached, offered, amount⟩

end Harbour

end YieldRules
