import YieldRules.Proofs.Filtering
import YieldRules.Proofs.Multiplicity
import YieldRules.Proofs.PartialViews

/-!
# Collections as selections

Two collections are narrower than another one: combat units are some of the
units, and the capital is one of the cities. In every world the narrow
collection offers what a single test leaves of the wide one. A player may have
several capitals; then the collection offers the first of them.
-/

namespace YieldRules

/-- The subjects of a modifier have to pass one test, of whatever arguments, and nothing else. -/
def Modifier.AsksOnly (m : Modifier) (name : String) : Prop :=
  ∃ id r, m.subjectRequirements = some ⟨id, .all, [r]⟩ ∧ r.kind = .predicate name ∧
    r.inverse = false

namespace World

variable {w : World} {options : Options} {player : PlayerId} {r : Requirement}
variable {city : CityId} {m : Modifier}

theorem subjects_of_asksOnly {name : String} (asks : m.AsksOnly name) (w : World)
    (options : Options) (player : PlayerId) (parent : Option Subject) :
    ∃ r, r.kind = .predicate name ∧ (w.context options).subjects player m parent =
      .ok (((w.context options).candidates player parent m.collection).filter
        fun s => w.satisfied player s r) := by
  obtain ⟨id, r, single, kind, plain⟩ := asks
  exact ⟨r, kind, Context.subjects_of_test kind plain single⟩

/-! ## Combat units -/

theorem satisfied_unit (kind : r.kind = .predicate "REQUIREMENT_UNIT_IS_COMBAT") (w : World)
    (player : PlayerId) (s : Subject) :
    w.satisfied player s r = s.unit?.any w.unitIsCombat := by
  simp only [satisfied, kind, test]

theorem filter_combatUnits (kind : r.kind = .predicate "REQUIREMENT_UNIT_IS_COMBAT")
    (w : World) (options : Options) (player : PlayerId) (parent : Option Subject) :
    ((w.context options).candidates player parent .playerUnits).filter
        (fun s => w.satisfied player s r) =
      (w.context options).candidates player parent .combatUnits := by
  rw [Context.candidates_combatUnits, Context.candidates, List.filter_filterMap]
  apply List.filterMap_congr
  intro unit _
  have asked : (w.context options).world.unitIsCombat unit = w.unitIsCombat unit := rfl
  cases known : (w.context options).unitSubject? player unit with
  | none => simp
  | some s =>
    -- The test looks the unit up again, by the number that the subject carries.
    have tested : w.satisfied player s r = w.unitIsCombat unit := by
      obtain ⟨_⟩ := ((w.context options).unitSubject?_eq_some_iff player unit s).mp known
      exact satisfied_unit kind w player _
    simp [Option.filter_some, tested, asked]

/-! ## Capitals -/

/-- The records of the capitals of a player. -/
def capitals (w : World) (player : PlayerId) : List (CityId × CityState) :=
  (w.ownCities player).filter (·.2.capital)

/-- A city is one of the capitals of a player. -/
def IsCapital (w : World) (player : PlayerId) (city : CityId) : Prop :=
  ∃ state, w.cities.get? city = some state ∧ state.owner = player ∧ state.capital = true

theorem isCapital_of_mem {e : CityId × CityState} (listed : e ∈ w.capitals player) :
    w.IsCapital player e.1 := by
  obtain ⟨own, capital⟩ := List.mem_filter.mp listed
  obtain ⟨recorded, owned⟩ := mem_ownCities.mp own
  exact ⟨e.2, recorded, owned, capital⟩

theorem capitalOf_eq_head? (w : World) (player : PlayerId) :
    w.capitalOf player = (w.capitals player).head?.map (·.1) := by
  rw [← List.head?_map, capitals, ownCities, List.filter_filter, capitalOf, SortedMap.keysWhere]
  simp only [Bool.and_comm]

theorem candidates_playerCapital (w : World) (options : Options) (player : PlayerId)
    (parent : Option Subject) :
    (w.context options).candidates player parent .playerCapital =
      ((w.capitals player).take 1).map fun e =>
        .city e.1 player (w.map.indexOf e.2.location) := by
  have capital : (w.context options).world.capital player = w.capitalOf player := rfl
  rw [Context.candidates, capital, capitalOf_eq_head?, List.take_one]
  cases first : (w.capitals player).head? with
  | none => rfl
  | some e =>
    have own : e ∈ w.ownCities player := List.mem_of_mem_filter (List.mem_of_head? first)
    simp [citySubject?_own own]

theorem filter_capitals (kind : r.kind = .predicate "REQUIREMENT_CITY_IS_CAPITAL") (w : World)
    (options : Options) (player : PlayerId) (parent : Option Subject) :
    ((w.context options).candidates player parent .playerCities).filter
        (fun s => w.satisfied player s r) =
      (w.capitals player).map fun e => .city e.1 player (w.map.indexOf e.2.location) := by
  rw [candidates_playerCities, List.filter_map, capitals]
  congr 1
  apply List.filter_congr
  intro e own
  obtain ⟨recorded, _⟩ := mem_ownCities.mp own
  simp [satisfied, kind, test, Subject.city?, recorded]

theorem capitals_length_le_one
    (single : ∀ c c', w.IsCapital player c → w.IsCapital player c' → c = c') :
    (w.capitals player).length ≤ 1 := by
  have ascending : (w.capitals player).Pairwise fun a b => a.1.raw < b.1.raw :=
    (w.ownCities_ascending player).sublist List.filter_sublist
  cases listed : w.capitals player with
  | nil => exact Nat.zero_le 1
  | cons e rest =>
    cases rest with
    | nil => exact Nat.le_refl 1
    | cons e' rest =>
      rw [listed] at ascending
      have before : e.1.raw < e'.1.raw :=
        (List.pairwise_cons.mp ascending).1 e' List.mem_cons_self
      have same : e.1 = e'.1 := single e.1 e'.1
        (isCapital_of_mem (listed ▸ List.mem_cons_self))
        (isCapital_of_mem (listed ▸ List.mem_cons_of_mem _ List.mem_cons_self))
      rw [same] at before
      exact False.elim (UInt32.lt_irrefl _ before)

/-- In every world combat units are the units of the player that pass the test for combat, and the
capital is the first city of the player that passes the test for capitals, or the only one if there
are no two. The order is that of the wider collection, under any limit. -/
theorem narrow_collections_select (w : World) (options : Options) (player : PlayerId)
    (parent parent' : Option Subject) (m : Modifier) :
    (m.collection = .playerUnits → m.AsksOnly "REQUIREMENT_UNIT_IS_COMBAT" →
      (w.context options).subjects player m parent =
        .ok ((w.context options).candidates player parent' .combatUnits)) ∧
    (m.collection = .playerCities → m.AsksOnly "REQUIREMENT_CITY_IS_CAPITAL" →
      ∃ all, (w.context options).subjects player m parent = .ok all ∧
        (w.context options).candidates player parent' .playerCapital = all.take 1 ∧
        ((∀ c c', w.IsCapital player c → w.IsCapital player c' → c = c') →
          (w.context options).candidates player parent' .playerCapital = all)) := by
  constructor
  · intro units asks
    obtain ⟨r, kind, resolved⟩ := subjects_of_asksOnly asks w options player parent
    rw [resolved, units, filter_combatUnits kind]
    rfl
  · intro cities asks
    obtain ⟨r, kind, resolved⟩ := subjects_of_asksOnly asks w options player parent
    rw [cities, filter_capitals kind] at resolved
    refine ⟨_, resolved, ?_, ?_⟩
    · rw [candidates_playerCapital, List.map_take]
    · intro single
      rw [candidates_playerCapital, List.take_of_length_le (capitals_length_le_one single)]

end World

namespace Harbour

/-- The harbour with a second capital at the pier and two units, one of them for combat. -/
def alliance : World :=
  { world with
    cities := world.cities.insert ⟨4⟩ ⟨.first, "", pier, true, [], {}⟩
    units := (SortedMap.insert {} ⟨5⟩ ⟨.first, "UNIT_SETTLER", .origin, false⟩).insert ⟨6⟩
      ⟨.first, "UNIT_GALLEY", pier, true⟩ }

/-- A modifier for what passes a test. -/
def onTest (collection : Collection) (name : String) : Modifier :=
  (Modifier.ofEffect collection "EFFECT").withSubjectRequirements
    (.allOf [.ofKind (.predicate name)])

theorem onTest_asksOnly (collection : Collection) (name : String) :
    (onTest collection name).AsksOnly name :=
  ⟨none, _, rfl, rfl, rfl⟩

/-- The galley is the only unit for combat. Of the two capitals the first is offered, and it is the
only one of the harbour alone. -/
theorem narrow_collections_select_harbour :
    (alliance.context .default).subjects .first
        (onTest .playerUnits "REQUIREMENT_UNIT_IS_COMBAT") none =
      .ok [.unit ⟨6⟩ .first (alliance.map.indexOf pier)] ∧
    (∃ all, (alliance.context .default).subjects .first
        (onTest .playerCities "REQUIREMENT_CITY_IS_CAPITAL") none = .ok all ∧
      all.length = 2 ∧
      (alliance.context .default).candidates .first none .playerCapital = all.take 1) ∧
    (world.context .default).subjects .first
        (onTest .playerCities "REQUIREMENT_CITY_IS_CAPITAL") none =
      .ok ((world.context .default).candidates .first none .playerCapital) := by
  have units := (World.narrow_collections_select alliance .default .first none none
    (onTest .playerUnits "REQUIREMENT_UNIT_IS_COMBAT")).1 rfl (onTest_asksOnly _ _)
  have cities (w : World) := (World.narrow_collections_select w .default .first none none
    (onTest .playerCities "REQUIREMENT_CITY_IS_CAPITAL")).2 rfl (onTest_asksOnly _ _)
  refine ⟨units, ?_, ?_⟩
  · obtain ⟨all, resolved, first, _⟩ := cities alliance
    have two : all = [.city city .first (alliance.map.indexOf .origin),
        .city ⟨4⟩ .first (alliance.map.indexOf pier)] :=
      Except.ok.inj (resolved.symm.trans (by rfl))
    exact ⟨all, resolved, by rw [two]; rfl, first⟩
  · obtain ⟨all, resolved, _, only⟩ := cities world
    rw [resolved, only]
    rintro c c' ⟨state, recorded, _⟩ ⟨state', recorded', _⟩
    have single (c : CityId) {state : CityState} (recorded : world.cities.get? c = some state) :
        c = city := by
      have entry := SortedMap.get?_eq_some_iff.mp recorded
      exact congrArg Prod.fst (List.mem_singleton.mp entry)
    rw [single c recorded, single c' recorded']

end Harbour

end YieldRules
