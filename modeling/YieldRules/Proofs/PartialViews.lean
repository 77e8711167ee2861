import YieldRules.Candidates
import YieldRules.Proofs.InTurn
import YieldRules.Proofs.Standing

/-!
# What a view does not know

A view may list cities and units of which it knows too little to make them
subjects. A collection passes over those and offers one subject for each of the
others, in the order of the list. What is not known of one entity is felt
nowhere else: the subjects of all other entities stay as they are, and so does
their order. Plots are offered without asking who owns a city or where it lies.
-/

namespace YieldRules

/-- What a view knows of a city when it knows its owner and its location. -/
inductive WorldView.KnowsCity (v : WorldView) (city : CityId) : Subject → Prop where
  | known {owner : PlayerId} {location : Location} (owned : v.cityOwner city = some owner)
      (located : v.cityLocation city = some location) :
      KnowsCity v city (.city city owner (v.plotIndex location))

/-- What a view knows of a unit of a player when it knows its location. -/
inductive WorldView.KnowsUnit (v : WorldView) (player : PlayerId) (unit : UnitId) :
    Subject → Prop where
  | known {location : Location} (located : v.unitLocation unit = some location) :
      KnowsUnit v player unit (.unit unit player (v.plotIndex location))

/-- The subject is one of some cities or one of some units, or it is neither city nor unit. -/
def Subject.isAmong (cities : CityId → Bool) (units : UnitId → Bool) : Subject → Bool
  | .city c _ _ => cities c
  | .unit u _ _ => units u
  | .player _ | .plot .. => true

/-- Where two functions differ only on items that are not chosen, what they give of the chosen ones
is the same, and in the same order. -/
theorem filter_filterMap_congr {α β : Type} {f g : α → Option β} {keep : β → Bool}
    {chosen : α → Bool} (keepsF : ∀ x y, f x = some y → keep y = chosen x)
    (keepsG : ∀ x y, g x = some y → keep y = chosen x)
    (same : ∀ x, chosen x = true → g x = f x) (xs : List α) :
    (xs.filterMap g).filter keep = (xs.filterMap f).filter keep := by
  rw [List.filter_filterMap, List.filter_filterMap]
  apply List.filterMap_congr
  intro x _
  by_cases hx : chosen x = true
  · rw [same x hx]
  · have dropped (h : α → Option β) (keeps : ∀ x y, h x = some y → keep y = chosen x) :
        (h x).filter keep = none := by
      apply Option.filter_eq_none_iff.mpr
      intro y shown
      rwa [keeps x y shown]
    rw [dropped g keepsG, dropped f keepsF]

namespace Context

variable {ctx : Context} {player : PlayerId} {parent : Option Subject} {s : Subject}

theorem citySubject?_eq_some_iff (ctx : Context) (city : CityId) (s : Subject) :
    ctx.citySubject? city = some s ↔ ctx.world.KnowsCity city s := by
  constructor
  · intro known
    obtain ⟨location, located, known⟩ := Option.bind_eq_some_iff.mp known
    obtain ⟨owner, owned, same⟩ := Option.bind_eq_some_iff.mp known
    obtain rfl := Option.some.inj same
    exact .known owned located
  · rintro ⟨owned, located⟩
    simp [citySubject?, owned, located]

theorem unitSubject?_eq_some_iff (ctx : Context) (player : PlayerId) (unit : UnitId)
    (s : Subject) :
    ctx.unitSubject? player unit = some s ↔ ctx.world.KnowsUnit player unit s := by
  constructor
  · intro known
    obtain ⟨location, located, same⟩ := Option.bind_eq_some_iff.mp known
    obtain rfl := Option.some.inj same
    exact .known located
  · rintro ⟨located⟩
    simp [unitSubject?, located]

/-- Units that are no combat units are passed over like those that are not known. -/
theorem combatSubject?_eq_some_iff (ctx : Context) (player : PlayerId) (unit : UnitId)
    (s : Subject) :
    (if ctx.world.unitIsCombat unit then ctx.unitSubject? player unit else none) = some s ↔
      ctx.world.unitIsCombat unit = true ∧ ctx.world.KnowsUnit player unit s := by
  rw [← unitSubject?_eq_some_iff]
  by_cases combat : ctx.world.unitIsCombat unit = true
  · simp only [combat, if_true, true_and]
  · simp only [combat, Bool.false_eq_true, if_false, false_and, reduceCtorEq]

theorem candidates_combatUnits (ctx : Context) (player : PlayerId) (parent : Option Subject) :
    ctx.candidates player parent .combatUnits = (ctx.world.units player).filterMap fun unit =>
      if ctx.world.unitIsCombat unit then ctx.unitSubject? player unit else none :=
  List.filterMap_filter

/-! ## Views that differ in what they know -/

/-- The context with other answers about owners and locations. -/
def answering (ctx : Context) (owner : CityId → Option PlayerId)
    (seat : CityId → Option Location) (post : UnitId → Option Location) : Context :=
  { ctx with world := { ctx.world with
      cityOwner := owner, cityLocation := seat, unitLocation := post } }

variable {owner : CityId → Option PlayerId} {seat : CityId → Option Location}
variable {post : UnitId → Option Location} {cities : CityId → Bool} {units : UnitId → Bool}

theorem isAmong_of_citySubject? {city : CityId} (known : ctx.citySubject? city = some s) :
    s.isAmong cities units = cities city := by
  obtain ⟨_, _⟩ := (ctx.citySubject?_eq_some_iff city s).mp known
  rfl

theorem isAmong_of_unitSubject? {unit : UnitId} (known : ctx.unitSubject? player unit = some s) :
    s.isAmong cities units = units unit := by
  obtain ⟨_⟩ := (ctx.unitSubject?_eq_some_iff player unit s).mp known
  rfl

/-- Other answers about some entities leave the subjects of the others in their places. -/
theorem candidates_answering
    (sameCities : ∀ c, cities c = true →
      owner c = ctx.world.cityOwner c ∧ seat c = ctx.world.cityLocation c)
    (sameUnits : ∀ u, units u = true → post u = ctx.world.unitLocation u)
    (player : PlayerId) (parent : Option Subject) (collection : Collection) :
    ((ctx.answering owner seat post).candidates player parent collection).filter
        (·.isAmong cities units) =
      (ctx.candidates player parent collection).filter (·.isAmong cities units) := by
  have sameCity (c : CityId) (chosen : cities c = true) :
      (ctx.answering owner seat post).citySubject? c = ctx.citySubject? c := by
    obtain ⟨owned, located⟩ := sameCities c chosen
    simp only [citySubject?, answering, owned, located]
  have sameUnit (u : UnitId) (chosen : units u = true) :
      (ctx.answering owner seat post).unitSubject? player u = ctx.unitSubject? player u := by
    simp only [unitSubject?, answering, sameUnits u chosen]
  cases collection with
  | playerCapital | playerCities | allCities =>
    exact filter_filterMap_congr (fun _ _ => isAmong_of_citySubject?)
      (fun _ _ => isAmong_of_citySubject?) sameCity _
  | allUnits | playerUnits | combatUnits =>
    exact filter_filterMap_congr (fun _ _ => isAmong_of_unitSubject?)
      (fun _ _ => isAmong_of_unitSubject?) sameUnit _
  | playerPlots | owner | cityPlots | occupiedCity | citiesOfOwnerReligion | playerCombat
  | other name => rfl

/-- Nothing is offered of entities of which too little is known. -/
theorem filter_candidates_of_unknown
    (unknownCities : ∀ c, cities c = false →
      ctx.world.cityOwner c = none ∨ ctx.world.cityLocation c = none)
    (unknownUnits : ∀ u, units u = false → ctx.world.unitLocation u = none)
    (player : PlayerId) (parent : Option Subject) (collection : Collection) :
    (ctx.candidates player parent collection).filter (·.isAmong cities units) =
      ctx.candidates player parent collection := by
  apply List.filter_eq_self.mpr
  intro s offered
  cases offers_of_mem offered with
  | @city _ city _ own known =>
    rw [isAmong_of_citySubject? known]
    by_contra left
    obtain ⟨owned, located⟩ := (ctx.citySubject?_eq_some_iff city s).mp known
    rcases unknownCities city (Bool.eq_false_iff.mpr left) with lost | lost
    · cases owned.symm.trans lost
    · cases located.symm.trans lost
  | @unit _ unit _ own known =>
    rw [isAmong_of_unitSubject? known]
    by_contra left
    obtain ⟨located⟩ := (ctx.unitSubject?_eq_some_iff player unit s).mp known
    cases located.symm.trans (unknownUnits unit (Bool.eq_false_iff.mpr left))
  | plot | nestedPlot | player => rfl

/-- Under any view the cities and units of a player are offered in the order of the view's lists,
each of them once with what the view knows of it, and those that it knows too little of are passed
over. What the view answers about the owner or the location of some entities does not touch the
subjects of the others, and plots are offered whatever it answers. -/
theorem candidates_of_partial_view (ctx : Context) (player : PlayerId)
    (parent : Option Subject) :
    (∀ collection ∈ [Collection.playerCities, .allCities], ∀ l,
      l = ctx.candidates player parent collection ↔
        InTurn ctx.world.KnowsCity (ctx.world.cities player) l) ∧
    (∀ l, l = ctx.candidates player parent .playerCapital ↔
      InTurn ctx.world.KnowsCity (ctx.world.capital player).toList l) ∧
    (∀ collection ∈ [Collection.playerUnits, .allUnits], ∀ l,
      l = ctx.candidates player parent collection ↔
        InTurn (ctx.world.KnowsUnit player) (ctx.world.units player) l) ∧
    (∀ l, l = ctx.candidates player parent .combatUnits ↔
      InTurn (fun unit s => ctx.world.unitIsCombat unit = true ∧
        ctx.world.KnowsUnit player unit s) (ctx.world.units player) l) ∧
    ∀ owner seat post,
      (∀ collection ∈ [Collection.playerPlots, .cityPlots],
        (ctx.answering owner seat post).candidates player parent collection =
          ctx.candidates player parent collection) ∧
      ∀ (cities : CityId → Bool) (units : UnitId → Bool),
        (∀ c, cities c = true →
          owner c = ctx.world.cityOwner c ∧ seat c = ctx.world.cityLocation c) →
        (∀ u, units u = true → post u = ctx.world.unitLocation u) → ∀ collection,
        ((ctx.answering owner seat post).candidates player parent collection).filter
            (·.isAmong cities units) =
          (ctx.candidates player parent collection).filter (·.isAmong cities units) ∧
        ((∀ c, cities c = false → owner c = none ∨ seat c = none) →
          (∀ u, units u = false → post u = none) →
          (ctx.answering owner seat post).candidates player parent collection =
            (ctx.candidates player parent collection).filter (·.isAmong cities units)) := by
  refine ⟨?_, ?_, ?_, ?_, ?_⟩
  · intro collection general l
    rcases List.mem_pair.mp general with rfl | rfl <;>
      exact eq_filterMap_iff ctx.citySubject?_eq_some_iff
  · intro l
    exact eq_filterMap_iff ctx.citySubject?_eq_some_iff
  · intro collection general l
    rcases List.mem_pair.mp general with rfl | rfl <;>
      exact eq_filterMap_iff (ctx.unitSubject?_eq_some_iff player)
  · intro l
    rw [candidates_combatUnits]
    exact eq_filterMap_iff (ctx.combatSubject?_eq_some_iff player)
  · intro owner seat post
    constructor
    · intro collection plots
      rcases List.mem_pair.mp plots with rfl | rfl <;> rfl
    · intro cities units sameCities sameUnits collection
      have others := candidates_answering sameCities sameUnits player parent collection
      refine ⟨others, fun unknownCities unknownUnits => ?_⟩
      rw [← others]
      exact (filter_candidates_of_unknown unknownCities unknownUnits player parent
        collection).symm

end Context

namespace Harbour

/-- A chart on which two of three cities have an owner. All of them lie at the pier. -/
def chart : Context :=
  let ctx := world.context .default
  { ctx with world := { ctx.world with
      cities := fun _ => [⟨2⟩, ⟨3⟩, city]
      cityOwner := fun c => if c = ⟨3⟩ then none else some .first
      cityLocation := fun _ => some pier } }

/-- The subject that the chart has of a city. -/
def charted (c : CityId) : Subject :=
  .city c .first (world.map.indexOf pier)

/-- The owners on the chart, except that of one city. -/
def ownersWithout (lost c : CityId) : Option PlayerId :=
  if c = lost then none else chart.world.cityOwner c

/-- The city without an owner is passed over. When the owner of the city in front of it is lost
too, the last city is still offered. -/
theorem candidates_of_partial_view_harbour :
    chart.candidates .first none .playerCities = [charted ⟨2⟩, charted city] ∧
    (chart.answering (ownersWithout ⟨2⟩) chart.world.cityLocation
      chart.world.unitLocation).candidates .first none .playerCities = [charted city] := by
  obtain ⟨cities, _, _, _, answers⟩ := Context.candidates_of_partial_view chart .first none
  have known (c : CityId) (owned : chart.world.cityOwner c = some .first) :
      chart.world.KnowsCity c (charted c) :=
    .known owned (rfl : chart.world.cityLocation c = some pier)
  have listed : [charted ⟨2⟩, charted city] = chart.candidates .first none .playerCities := by
    refine (cities .playerCities (by simp) _).mpr ?_
    refine .shown (known _ rfl) (.passed ?_ (.shown (known _ rfl) .done))
    rintro s ⟨owned, _⟩
    cases owned
  refine ⟨listed.symm, ?_⟩
  have kept := (answers (ownersWithout ⟨2⟩) chart.world.cityLocation chart.world.unitLocation).2
    (fun c => c != ⟨2⟩) (fun _ => true) ?_ (fun _ _ => rfl) .playerCities
  · have others := kept.2 ?_ ?_
    · rw [others, ← listed]
      rfl
    · intro c lost
      obtain rfl : c = ⟨2⟩ := by simpa using lost
      exact Or.inl rfl
    · intro u lost
      cases lost
  · intro c other
    have differs : c ≠ ⟨2⟩ := by simpa using other
    exact ⟨if_neg differs, rfl⟩

end Harbour

end YieldRules
