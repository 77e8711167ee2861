import YieldRules.Candidates
import YieldRules.Proofs.SoundWorld

/-!
# Where subjects stand

A subject carries the number of a plot, and a requirement on its plot goes from
the number back to a location. In a world without defects every subject that a
collection offers has a record, the record belongs to the player, and the
number leads to the location in the record. So requirements on plots can be
read off the records of that location.
-/

namespace YieldRules

namespace Context

variable {ctx : Context} {player : PlayerId} {parent : Option Subject} {collection : Collection}
variable {s : Subject}

/-- What a view has to answer for a collection to offer a subject. -/
inductive Offers (ctx : Context) (player : PlayerId) (parent : Option Subject) :
    Collection → Subject → Prop where
  | city {collection : Collection} {city : CityId} {s : Subject}
      (own : city ∈ ctx.world.cities player ∨ ctx.world.capital player = some city)
      (known : ctx.citySubject? city = some s) : Offers ctx player parent collection s
  | unit {collection : Collection} {unit : UnitId} {s : Subject}
      (own : unit ∈ ctx.world.units player)
      (known : ctx.unitSubject? player unit = some s) : Offers ctx player parent collection s
  | plot {city : CityId} {p : PlotIndex} (own : city ∈ ctx.world.cities player)
      (bought : p ∈ ctx.world.purchasedPlots city) :
      Offers ctx player parent .playerPlots (.plot city p)
  | nestedPlot {city : CityId} {owner : PlayerId} {seat p : PlotIndex}
      (nested : parent = some (.city city owner seat))
      (bought : p ∈ ctx.world.purchasedPlots city) :
      Offers ctx player parent .cityPlots (.plot city p)
  | player : Offers ctx player parent .owner (.player player)

theorem mem_purchasedSubjects {city : CityId} (offered : s ∈ ctx.purchasedSubjects city) :
    ∃ p ∈ ctx.world.purchasedPlots city, s = .plot city p := by
  obtain ⟨p, bought, rfl⟩ := List.mem_map.mp offered
  exact ⟨p, bought, rfl⟩

/-- What is built on has been purchased. -/
theorem mem_builtSubjects {city : CityId} (offered : s ∈ ctx.builtSubjects city) :
    ∃ p ∈ ctx.world.purchasedPlots city, s = .plot city p := by
  obtain ⟨located, built, rfl⟩ := List.mem_map.mp offered
  obtain ⟨p, bought, rfl⟩ := List.mem_map.mp (List.mem_of_mem_filter built)
  exact ⟨p, bought, rfl⟩

theorem offers_of_mem (offered : s ∈ ctx.candidates player parent collection) :
    ctx.Offers player parent collection s := by
  cases collection with
  | playerCapital =>
    obtain ⟨city, listed, known⟩ := List.mem_filterMap.mp offered
    exact .city (Or.inr (Option.mem_toList.mp listed)) known
  | playerCities | allCities =>
    obtain ⟨city, listed, known⟩ := List.mem_filterMap.mp offered
    exact .city (Or.inl listed) known
  | playerPlots =>
    obtain ⟨city, own, part⟩ := List.mem_flatMap.mp offered
    rcases List.mem_append.mp part with purchased | built
    · obtain ⟨p, bought, rfl⟩ := mem_purchasedSubjects purchased
      exact .plot own bought
    · obtain ⟨p, bought, rfl⟩ := mem_builtSubjects built
      exact .plot own bought
  | owner =>
    obtain rfl := List.mem_singleton.mp offered
    exact .player
  | cityPlots =>
    match parent with
    | some (.city city owner seat) =>
      obtain ⟨p, bought, rfl⟩ := mem_purchasedSubjects offered
      exact .nestedPlot rfl bought
  | allUnits | playerUnits =>
    obtain ⟨unit, listed, known⟩ := List.mem_filterMap.mp offered
    exact .unit listed known
  | combatUnits =>
    obtain ⟨unit, listed, known⟩ := List.mem_filterMap.mp offered
    exact .unit (List.mem_of_mem_filter listed) known
  | occupiedCity | citiesOfOwnerReligion | playerCombat | other name => cases offered

end Context

namespace World

variable {w : World} {options : Options} {player : PlayerId} {collection : Collection}
variable {s : Subject} {place : Option Location}

/-- A subject of a player has a record, and its plot is the one at the location in the record. Only
the plots of a city that is a parent may belong to somebody else. -/
inductive Stands (w : World) (player : PlayerId) (collection : Collection) :
    Subject → Option Location → Prop where
  | city {city : CityId} {state : CityState} {p : PlotIndex}
      (listed : w.cities.get? city = some state) (owned : state.owner = player)
      (onMap : p.index.toNat < w.map.width.toNat * w.map.height.toNat)
      (there : w.map.locationOf p = state.location) :
      Stands w player collection (.city city player p) (some state.location)
  | unit {unit : UnitId} {state : UnitState} {p : PlotIndex}
      (listed : w.units.get? unit = some state) (owned : state.owner = player)
      (onMap : p.index.toNat < w.map.width.toNat * w.map.height.toNat)
      (there : w.map.locationOf p = state.location) :
      Stands w player collection (.unit unit player p) (some state.location)
  | plot {city : CityId} {state : CityState} {l : Location} {p : PlotIndex}
      (listed : w.cities.get? city = some state) (bought : l ∈ state.purchasedPlots)
      (owned : collection ≠ .cityPlots → state.owner = player)
      (onMap : p.index.toNat < w.map.width.toNat * w.map.height.toNat)
      (there : w.map.locationOf p = l) :
      Stands w player collection (.plot city p) (some l)
  | player : Stands w player collection (.player player) none

theorem mem_citiesOf_iff {city : CityId} : city ∈ w.citiesOf player ↔
    ∃ state, w.cities.get? city = some state ∧ state.owner = player := by
  simp [citiesOf, SortedMap.mem_keysWhere]

theorem mem_unitsOf_iff {unit : UnitId} : unit ∈ w.unitsOf player ↔
    ∃ state, w.units.get? unit = some state ∧ state.owner = player := by
  simp [unitsOf, SortedMap.mem_keysWhere]

theorem mem_citiesOf_of_capital {city : CityId} (capital : w.capitalOf player = some city) :
    city ∈ w.citiesOf player := by
  obtain ⟨state, listed, passes⟩ := SortedMap.mem_keysWhere.mp (List.mem_of_head? capital)
  have owned : state.owner = player := by
    simp only [Bool.and_eq_true, beq_iff_eq] at passes
    exact passes.1
  exact mem_citiesOf_iff.mpr ⟨state, listed, owned⟩

theorem mem_purchasedPlots {city : CityId} {p : PlotIndex} (bought : p ∈ w.purchasedPlots city) :
    ∃ state l, w.cities.get? city = some state ∧ l ∈ state.purchasedPlots ∧
      w.map.indexOf l = p := by
  cases listed : w.cities.get? city with
  | none => simp [purchasedPlots, listed] at bought
  | some state =>
    rw [purchasedPlots, listed] at bought
    obtain ⟨l, bought, number⟩ := List.mem_map.mp bought
    exact ⟨state, l, rfl, bought, number⟩

theorem citySubject?_context {city : CityId} {state : CityState}
    (listed : w.cities.get? city = some state) :
    (w.context options).citySubject? city =
      some (.city city state.owner (w.map.indexOf state.location)) := by
  simp [Context.citySubject?, context, view, listed]

theorem unitSubject?_context {unit : UnitId} {state : UnitState}
    (listed : w.units.get? unit = some state) :
    (w.context options).unitSubject? player unit =
      some (.unit unit player (w.map.indexOf state.location)) := by
  simp [Context.unitSubject?, context, view, listed]

theorem lt_area_of_placed (sound : w.defect? = none) {what : Placed} {l : Location}
    (placed : (what, l) ∈ w.placements) :
    (w.map.indexOf l).index.toNat < w.map.width.toNat * w.map.height.toNat :=
  WorldMap.indexOf_lt_area (hasValidSize_of_sound sound) (contains_of_placed sound placed)

theorem stands_of_offers {parent : Option Subject} (sound : w.defect? = none)
    (offers : (w.context options).Offers player parent collection s) :
    ∃ place, w.Stands player collection s place := by
  cases offers with
  | city own known =>
    obtain ⟨state, listed, rfl⟩ := mem_citiesOf_iff.mp (own.elim id mem_citiesOf_of_capital)
    rw [citySubject?_context listed] at known
    obtain rfl := Option.some.inj known
    have placed := mem_placements_of_city listed
    exact ⟨_, .city listed rfl (lt_area_of_placed sound placed) (locationOf_placed sound placed)⟩
  | unit own known =>
    obtain ⟨state, listed, rfl⟩ := mem_unitsOf_iff.mp own
    rw [unitSubject?_context listed] at known
    obtain rfl := Option.some.inj known
    have placed := mem_placements_of_unit listed
    exact ⟨_, .unit listed rfl (lt_area_of_placed sound placed) (locationOf_placed sound placed)⟩
  | plot own numbered =>
    obtain ⟨state, listed, owned⟩ := mem_citiesOf_iff.mp own
    obtain ⟨state', l, listed', bought, rfl⟩ := mem_purchasedPlots numbered
    obtain rfl : state = state' := Option.some.inj (listed.symm.trans listed')
    have placed := mem_placements_of_purchased listed bought
    exact ⟨_, .plot listed bought (fun _ => owned) (lt_area_of_placed sound placed)
      (locationOf_placed sound placed)⟩
  | nestedPlot nested numbered =>
    obtain ⟨state, l, listed, bought, rfl⟩ := mem_purchasedPlots numbered
    have placed := mem_placements_of_purchased listed bought
    exact ⟨_, .plot listed bought (fun other => False.elim (other rfl))
      (lt_area_of_placed sound placed) (locationOf_placed sound placed)⟩
  | player => exact ⟨_, .player⟩

theorem Stands.locationOf? (stands : w.Stands player collection s place) :
    w.locationOf? s = place := by
  cases stands with
  | city _ _ _ there | unit _ _ _ there | plot _ _ _ _ there => exact congrArg some there
  | player => rfl

theorem Stands.ne_offMap (stands : w.Stands player collection s place)
    (sound : w.defect? = none) {p : PlotIndex} (number : s.plot? = some p) : p ≠ .offMap := by
  have sized := hasValidSize_of_sound sound
  cases stands with
  | city _ _ onMap _ | unit _ _ onMap _ | plot _ _ _ onMap _ =>
    obtain rfl := Option.some.inj number
    exact WorldMap.ne_offMap_of_lt_area sized onMap
  | player => cases number

end World

/-! ## Requirements on plots -/

/-- The tests of a world on the plot of a subject. -/
inductive PlotTest where
  | lake
  | terrain
  | biome
  | constructible

namespace PlotTest

def name : PlotTest → String
  | lake => "REQUIREMENT_PLOT_IS_LAKE"
  | terrain => "REQUIREMENT_PLOT_TERRAIN_TYPE_MATCHES"
  | biome => "REQUIREMENT_PLOT_BIOME_TYPE_MATCHES"
  | constructible => "REQUIREMENT_PLOT_HAS_CONSTRUCTIBLE"

/-- What the records of a location say, of which the first about its land counts. A test that
lacks its argument fails. -/
def holdsAt (w : World) (l : Location) (args : Arguments) : PlotTest → Bool
  | lake => (w.map.plots.find? fun p => p.location == l).any (·.lake)
  | terrain => (args.value? "TerrainType").any fun wanted =>
      (w.map.plots.find? fun p => p.location == l).any (·.terrain == some wanted)
  | biome => (args.value? "BiomeType").any fun wanted =>
      (w.map.plots.find? fun p => p.location == l).any (·.biome == some wanted)
  | constructible => (args.value? "ConstructibleType").any fun wanted =>
      w.constructibles.entries.any fun e =>
        e.2.location == l && !e.2.hidden && e.2.typeName == wanted

variable {w : World} {s : Subject} {l : Location}

theorem plotMatches_located (located : w.locationOf? s = some l) (args : Arguments)
    (name : String) (property : PlotState → Option DataName) :
    w.plotMatches s args name (fun l => (w.map.plotAt? l).bind property) =
      (args.value? name).any fun wanted =>
        (w.map.plots.find? fun p => p.location == l).any (property · == some wanted) := by
  cases asked : args.value? name with
  | none => simp [World.plotMatches, located, asked]
  | some wanted =>
    have record : w.map.plotAt? l = w.map.plots.find? fun p => p.location == l := rfl
    cases found : w.map.plots.find? fun p => p.location == l <;>
      simp [World.plotMatches, located, asked, record, found]

theorem plotHasConstructible_located (located : w.locationOf? s = some l) (args : Arguments) :
    w.plotHasConstructible s args = constructible.holdsAt w l args := by
  cases asked : args.value? "ConstructibleType" with
  | none => simp [World.plotHasConstructible, holdsAt, located, asked]
  | some wanted =>
    have standing := SortedMap.any_keysWhere (m := w.constructibles)
      (p := fun _ c => c.location == l && !c.hidden) fun c => c.map (·.typeName) == some wanted
    simpa [World.plotHasConstructible, holdsAt, located, asked, World.visibleAt, World.typeName]
      using standing

/-- A test on a plot is decided by the records of its location. -/
theorem satisfied_located (test : PlotTest) (located : w.locationOf? s = some l)
    {r : Requirement} (kind : r.kind = .predicate test.name) (player : PlayerId) :
    w.satisfied player s r = test.holdsAt w l r.arguments := by
  cases test with
  | lake =>
    simp only [World.satisfied, kind, name, World.test, located, Option.any_some]
    rfl
  | terrain =>
    simp only [World.satisfied, kind, name, World.test]
    exact plotMatches_located located r.arguments "TerrainType" (·.terrain)
  | biome =>
    simp only [World.satisfied, kind, name, World.test]
    exact plotMatches_located located r.arguments "BiomeType" (·.biome)
  | constructible =>
    simp only [World.satisfied, kind, name, World.test]
    exact plotHasConstructible_located located r.arguments

end PlotTest

/-- In a world without defects every subject that a collection offers stands where its record has
it, on a plot of the map, and belongs to the player. So a requirement on its plot holds when the
records of that location say so. -/
theorem World.candidate_stands_where_recorded (w : World) (sound : w.defect? = none)
    (options : Options) (player : PlayerId) (parent : Option Subject) (collection : Collection)
    (s : Subject) (offered : s ∈ (w.context options).candidates player parent collection) :
    ∃ place, w.Stands player collection s place ∧
      (∀ p, s.plot? = some p → p ≠ .offMap ∧ ∃ l, place = some l) ∧
      ∀ l, place = some l → ∀ (test : PlotTest) (r : Requirement) (tester : PlayerId),
        r.kind = .predicate test.name →
        w.satisfied tester s r = test.holdsAt w l r.arguments := by
  obtain ⟨place, stands⟩ := stands_of_offers sound (Context.offers_of_mem offered)
  refine ⟨place, stands, ?_, ?_⟩
  · intro p number
    have located : w.locationOf? s = place := stands.locationOf?
    rw [locationOf?, number] at located
    exact ⟨stands.ne_offMap sound number, _, located.symm⟩
  · rintro l rfl test r tester kind
    exact test.satisfied_located stands.locationOf? kind tester

namespace Harbour

def onFishery : Requirement :=
  (Requirement.ofKind (.predicate "REQUIREMENT_PLOT_HAS_CONSTRUCTIBLE")).withArguments
    (Arguments.set {} "ConstructibleType" "IMPROVEMENT_FISHERY")

/-- The city stands beside its fishery; the one on its own plot is hidden. -/
theorem candidate_stands_where_recorded_harbour :
    (∃ s ∈ (world.context .default).candidates .first none .allCities,
      world.Stands .first .allCities s (some .origin) ∧
      ∀ tester, world.satisfied tester s onFishery = false) ∧
    (∃ s ∈ (world.context .default).candidates .first none .playerPlots,
      world.Stands .first .playerPlots s (some pier) ∧
      ∀ tester, world.satisfied tester s onFishery = true) := by
  have seat : Subject.city city .first (world.map.indexOf .origin) ∈
      (world.context .default).candidates .first none .allCities :=
    List.mem_singleton.mpr rfl
  have dock : Subject.plot city (world.map.indexOf pier) ∈
      (world.context .default).candidates .first none .playerPlots :=
    List.mem_cons_self
  constructor
  · obtain ⟨place, stands, _, tests⟩ := World.candidate_stands_where_recorded world world_sound
      .default .first none .allCities _ seat
    obtain rfl : some .origin = place := stands.locationOf?
    exact ⟨_, seat, stands, fun tester => tests _ rfl .constructible onFishery tester rfl⟩
  · obtain ⟨place, stands, _, tests⟩ := World.candidate_stands_where_recorded world world_sound
      .default .first none .playerPlots _ dock
    obtain rfl : some pier = place := stands.locationOf?
    exact ⟨_, dock, stands, fun tester => tests _ rfl .constructible onFishery tester rfl⟩

end Harbour

end YieldRules
