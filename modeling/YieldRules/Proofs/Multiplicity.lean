import YieldRules.Proofs.BuiltPlots
import YieldRules.Proofs.DirectCount

/-!
# How often a plot is offered

The plots of a player are listed city by city, in ascending order of the
cities: what the city offers as a parent, and after that the built part of the
same list. So a plot is offered as often as its city has bought it, and twice
as often if something visible stands on it, whoever built it. Requirements keep
all of its places in the list or none.
-/

namespace YieldRules

/-- An item that passes a test is there a second time when the items that pass are added again. -/
theorem count_append_filter {α : Type} [DecidableEq α] (xs : List α) (q : α → Bool) (x : α) :
    (xs ++ xs.filter q).count x = xs.count x * (1 + if q x then 1 else 0) := by
  rw [List.count_append]
  cases passes : q x with
  | true =>
    rw [List.count_filter passes]
    simp [Nat.mul_two]
  | false =>
    have absent : x ∉ xs.filter q := fun listed => by simp [passes] at listed
    simp [List.count_eq_zero_of_not_mem absent]

theorem count_flatMap_of_key {κ α : Type} [DecidableEq κ] [DecidableEq α] {keys : List κ} {k : κ}
    {f : κ → List α} {x : α} (distinct : keys.Nodup) (listed : k ∈ keys)
    (elsewhere : ∀ other, other ≠ k → x ∉ f other) :
    (keys.flatMap f).count x = (f k).count x :=
  countP_flatMap_of_key distinct listed fun other differs _ =>
    List.count_eq_zero_of_not_mem (elsewhere other differs)

namespace Context

variable {city : CityId} {p : PlotIndex}

theorem builtSubjects_eq_filter (ctx : Context) (city : CityId) :
    ctx.builtSubjects city = (ctx.purchasedSubjects city).filter fun s =>
      s.plot?.any fun p =>
        !(ctx.world.visibleConstructibles (ctx.world.plotLocation p)).isEmpty := by
  simp only [builtSubjects, builtPlots, purchasedSubjects, List.filter_map, List.map_map]
  rfl

theorem count_purchasedSubjects (ctx : Context) (city : CityId) (p : PlotIndex) :
    (ctx.purchasedSubjects city).count (.plot city p) =
      (ctx.world.purchasedPlots city).count p := by
  rw [purchasedSubjects, List.count_eq_countP, List.countP_map, List.count_eq_countP]
  apply List.countP_congr
  intro q _
  simp

theorem not_mem_plots_of_other (ctx : Context) {other : CityId} (differs : other ≠ city) :
    .plot city p ∉ ctx.purchasedSubjects other ++ ctx.builtSubjects other := by
  intro contributed
  have same := city?_of_contributed contributed
  exact differs (Option.some.inj same).symm

end Context

namespace World

variable {w : World} {options : Options} {player : PlayerId} {city : CityId} {p : PlotIndex}

/-- Something visible stands on the plot of a subject. -/
def standsOnBuilt (w : World) (s : Subject) : Bool :=
  s.plot?.any fun p => w.builtAt (w.map.locationOf p)

/-- The records of the cities of a player. -/
def ownCities (w : World) (player : PlayerId) : List (CityId × CityState) :=
  w.cities.entries.filter fun e => e.2.owner == player

/-- As often as an owned city lists the plot, and twice as often if it is built on. -/
def timesOffered (w : World) (player : PlayerId) (city : CityId) (p : PlotIndex) : Nat :=
  match w.cities.get? city with
  | some state =>
    if state.owner = player then
      state.purchasedPlots.countP (fun l => w.map.indexOf l == p) *
        (1 + if w.builtAt (w.map.locationOf p) then 1 else 0)
    else 0
  | none => 0

theorem mem_ownCities {state : CityState} : (city, state) ∈ w.ownCities player ↔
    w.cities.get? city = some state ∧ state.owner = player := by
  simp [ownCities, SortedMap.get?_eq_some_iff]

theorem ownCities_ascending (w : World) (player : PlayerId) :
    (w.ownCities player).Pairwise fun a b => a.1.raw < b.1.raw := by
  have kept : (w.ownCities player).Sublist w.cities.entries := List.filter_sublist
  exact (w.cities.ascending.sublist kept).imp Id.lt_of_compare

theorem playerPlots_eq_flatMap (w : World) (options : Options) (player : PlayerId)
    (parent : Option Subject) :
    (w.context options).candidates player parent .playerPlots =
      (w.citiesOf player).flatMap fun city =>
        (w.context options).purchasedSubjects city ++ (w.context options).builtSubjects city :=
  rfl

theorem citiesOf_eq_map (w : World) (player : PlayerId) :
    w.citiesOf player = (w.ownCities player).map (·.1) :=
  rfl

theorem citySubject?_own {e : CityId × CityState} (own : e ∈ w.ownCities player) :
    (w.context options).citySubject? e.1 =
      some (.city e.1 player (w.map.indexOf e.2.location)) := by
  obtain ⟨listed, owned⟩ := mem_ownCities.mp own
  rw [citySubject?_context listed, owned]

/-- Every city of a player is a candidate. -/
theorem candidates_playerCities (w : World) (options : Options) (player : PlayerId)
    (parent : Option Subject) :
    (w.context options).candidates player parent .playerCities =
      (w.ownCities player).map fun e => .city e.1 player (w.map.indexOf e.2.location) := by
  have cities : (w.context options).world.cities player = (w.ownCities player).map (·.1) :=
    w.citiesOf_eq_map player
  rw [Context.candidates, cities, List.filterMap_map, ← List.filterMap_eq_map]
  apply List.filterMap_congr
  intro e own
  rw [Function.comp_apply, citySubject?_own own, Function.comp_apply]

theorem builtSubjects_context (w : World) (options : Options) (city : CityId) :
    (w.context options).builtSubjects city =
      ((w.context options).purchasedSubjects city).filter w.standsOnBuilt := by
  rw [Context.builtSubjects_eq_filter]
  apply List.filter_congr
  intro s _
  cases number : s.plot? with
  | none => simp [standsOnBuilt, number]
  | some p =>
    have visible : (w.context options).world.visibleConstructibles
        ((w.context options).world.plotLocation p) = w.visibleAt (w.map.locationOf p) := rfl
    simp [standsOnBuilt, number, visible, visibleAt_isEmpty]

/-- Each city gives what it offers as a parent, and then what is built on of that. -/
theorem candidates_playerPlots (w : World) (options : Options) (player : PlayerId)
    (parent parent' : Option Subject) :
    (w.context options).candidates player parent .playerPlots =
      ((w.context options).candidates player parent' .playerCities).flatMap fun c =>
        (w.context options).candidates player (some c) .cityPlots ++
          ((w.context options).candidates player (some c) .cityPlots).filter w.standsOnBuilt := by
  rw [playerPlots_eq_flatMap, citiesOf_eq_map, candidates_playerCities, List.flatMap_map,
    List.flatMap_map]
  apply List.flatMap_congr
  intro e _
  rw [builtSubjects_context]
  rfl

theorem count_purchasedPlots {state : CityState} (listed : w.cities.get? city = some state) :
    (w.purchasedPlots city).count p =
      state.purchasedPlots.countP fun l => w.map.indexOf l == p := by
  rw [purchasedPlots, listed, List.count_eq_countP, List.countP_map]
  rfl

/-- A city contributes a plot to the list as often as its record has it, once or twice over. -/
theorem count_plots_of_city {state : CityState} (listed : w.cities.get? city = some state) :
    ((w.context options).purchasedSubjects city ++
        (w.context options).builtSubjects city).count (.plot city p) =
      state.purchasedPlots.countP (fun l => w.map.indexOf l == p) *
        (1 + if w.builtAt (w.map.locationOf p) then 1 else 0) := by
  have bought : (w.context options).world.purchasedPlots city = w.purchasedPlots city := rfl
  rw [builtSubjects_context, count_append_filter, Context.count_purchasedSubjects, bought,
    count_purchasedPlots listed]
  rfl

theorem timesOffered_of_foreign (foreign : city ∉ w.citiesOf player) :
    w.timesOffered player city p = 0 := by
  cases listed : w.cities.get? city with
  | none => simp only [timesOffered, listed]
  | some state =>
    have differs : state.owner ≠ player := fun owned =>
      foreign (mem_citiesOf_iff.mpr ⟨state, listed, owned⟩)
    simp only [timesOffered, listed, if_neg differs]

/-- Plots of one city are contributed by no other, and each city of the player is gone through
once. -/
theorem count_playerPlots (w : World) (options : Options) (player : PlayerId)
    (parent : Option Subject) (city : CityId) (p : PlotIndex) :
    ((w.context options).candidates player parent .playerPlots).count (.plot city p) =
      w.timesOffered player city p := by
  rw [playerPlots_eq_flatMap]
  by_cases own : city ∈ w.citiesOf player
  · obtain ⟨state, listed, owned⟩ := mem_citiesOf_iff.mp own
    rw [count_flatMap_of_key (w.citiesOf_nodup player) own fun other differs =>
      (w.context options).not_mem_plots_of_other differs, count_plots_of_city listed]
    simp only [timesOffered, listed, if_pos owned]
  · rw [timesOffered_of_foreign own]
    apply List.count_eq_zero_of_not_mem
    intro offered
    obtain ⟨other, listed, contributed⟩ := List.mem_flatMap.mp offered
    have differs : other ≠ city := fun same => own (same ▸ listed)
    exact (w.context options).not_mem_plots_of_other differs contributed

end World

/-- The plots of a player are those of each of the player's cities in turn, once as the city offers
them and once more the built ones, so how often a plot is offered can be read off the records; what
requirements let pass they let pass in all places. This holds in worlds with defects too. -/
theorem World.plots_of_player_by_city (w : World) (options : Options) (player : PlayerId)
    (parent : Option Subject) :
    (∀ parent', (w.context options).candidates player parent .playerPlots =
      ((w.context options).candidates player parent' .playerCities).flatMap fun c =>
        (w.context options).candidates player (some c) .cityPlots ++
          ((w.context options).candidates player (some c) .cityPlots).filter w.standsOnBuilt) ∧
    (∃ own : List (CityId × CityState), (own.Pairwise fun a b => a.1.raw < b.1.raw) ∧
      (∀ city state, (city, state) ∈ own ↔
        w.cities.get? city = some state ∧ state.owner = player) ∧
      ∀ parent', (w.context options).candidates player parent' .playerCities =
        own.map fun e => .city e.1 player (w.map.indexOf e.2.location)) ∧
    (∀ city p, ((w.context options).candidates player parent .playerPlots).count (.plot city p) =
      w.timesOffered player city p) ∧
    (∀ m l, m.collection = .playerPlots →
      (w.context options).subjects player m parent = .ok l → ∀ city p,
        ((w.context options).isEligible player (.plot city p) m.subjectRequirements = .ok true →
          l.count (.plot city p) = w.timesOffered player city p) ∧
        ((w.context options).isEligible player (.plot city p) m.subjectRequirements ≠ .ok true →
          l.count (.plot city p) = 0)) := by
  refine ⟨?_, ?_, ?_, ?_⟩
  · exact candidates_playerPlots w options player parent
  · exact ⟨w.ownCities player, w.ownCities_ascending player, fun city state => mem_ownCities,
      fun parent' => candidates_playerCities w options player parent'⟩
  · exact count_playerPlots w options player parent
  · intro m l plots resolved city p
    have counts := count_kept resolved (.plot city p)
    rw [plots, count_playerPlots] at counts
    exact counts

namespace Harbour

/-- The pier is listed twice and built on; the plot of the city is listed once and is no lake. -/
theorem plots_of_player_by_city_harbour :
    ∃ l, (world.context .default).subjects .first (onLakes .playerPlots) none = .ok l ∧
      l.count (.plot city (world.map.indexOf pier)) = 2 * (1 + 1) ∧
      l.count (.plot city (world.map.indexOf .origin)) = 0 := by
  have resolved : (world.context .default).subjects .first (onLakes .playerPlots) none =
      .ok (List.replicate 4 (.plot city (world.map.indexOf pier))) := by
    rfl
  have eligible : (world.context .default).isEligible .first
      (.plot city (world.map.indexOf pier)) (onLakes .playerPlots).subjectRequirements =
        .ok true := by
    rfl
  have refused : (world.context .default).isEligible .first
      (.plot city (world.map.indexOf .origin)) (onLakes .playerPlots).subjectRequirements =
        .ok false := by
    rfl
  have counts := (World.plots_of_player_by_city world .default .first none).2.2.2
    (onLakes .playerPlots) _ rfl resolved city
  have times : world.timesOffered .first city (world.map.indexOf pier) = 2 * (1 + 1) := by rfl
  refine ⟨_, resolved, ((counts _).1 eligible).trans times, (counts _).2 ?_⟩
  rw [refused]
  simp

end Harbour

end YieldRules
