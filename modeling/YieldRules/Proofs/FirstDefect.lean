import YieldRules.Proofs.Numbering
import YieldRules.Proofs.Searching

/-!
# The first defect of a world

Whether a world is well formed is said record by record, without regard to the
order in which records are checked. Where it is not, every violation has a
place, and the defect of the world is the violation at the first place: the size
of the map, then locations, then cities and names that are referred to. So a
defect of the second kind is only found in a world whose size and locations are
all as they should be.
-/

namespace YieldRules

/-! ## Places and their order -/

/-- A place in a world where something can be wrong. -/
inductive Site where
  | map
  | plot (n : Nat)
  /-- The location of a city, or that of one of its purchased plots. -/
  | city (id : CityId) (purchase : Option Nat)
  | unit (id : UnitId)
  | constructible (id : ConstructibleId)
  /-- The city that a constructible belongs to. -/
  | home (id : ConstructibleId)
  | set (name : DataName)

namespace Site

def stage : Site → Nat
  | map => 0
  | plot _ => 1
  | city .. => 2
  | unit _ => 3
  | constructible _ => 4
  | home _ => 5
  | set _ => 6

/-- Places of one kind come before all places of the next. Among themselves they come in the order
of their list or of their keys, and a city comes before the plots that it has purchased. -/
inductive Before : Site → Site → Prop where
  | stage {s t : Site} (lower : s.stage < t.stage) : Before s t
  | plot {m n : Nat} (below : m < n) : Before (plot m) (plot n)
  | city {a b : CityId} {p q : Option Nat} (below : compare a b = .lt) :
      Before (city a p) (city b q)
  | purchases {a : CityId} {n : Nat} : Before (city a none) (city a (some n))
  | purchase {a : CityId} {m n : Nat} (below : m < n) : Before (city a (some m)) (city a (some n))
  | unit {a b : UnitId} (below : compare a b = .lt) : Before (unit a) (unit b)
  | constructible {a b : ConstructibleId} (below : compare a b = .lt) :
      Before (constructible a) (constructible b)
  | home {a b : ConstructibleId} (below : compare a b = .lt) : Before (home a) (home b)
  | set {a b : DataName} (below : compare a b = .lt) : Before (set a) (set b)

variable {s t : Site}

theorem Before.stage_le (h : s.Before t) : s.stage ≤ t.stage := by
  cases h with
  | stage lower => exact Nat.le_of_lt lower
  | _ => exact Nat.le_refl _

theorem Before.asymm (s t : Site) (h : s.Before t) : ¬ t.Before s := by
  intro back
  cases h with
  | stage lower => exact Nat.not_lt_of_le back.stage_le lower
  | plot below =>
    cases back with
    | stage same => exact Nat.lt_irrefl _ same
    | plot above => exact Nat.lt_asymm below above
  | city below =>
    cases back with
    | stage same => exact Nat.lt_irrefl _ same
    | city above => exact Std.OrientedCmp.not_lt_of_lt below above
    | _ => exact SortedMap.ne_of_compare_lt below rfl
  | purchases =>
    cases back with
    | stage same => exact Nat.lt_irrefl _ same
    | city above => exact SortedMap.ne_of_compare_lt above rfl
  | purchase below =>
    cases back with
    | stage same => exact Nat.lt_irrefl _ same
    | city above => exact SortedMap.ne_of_compare_lt above rfl
    | purchase above => exact Nat.lt_asymm below above
  | unit below =>
    cases back with
    | stage same => exact Nat.lt_irrefl _ same
    | unit above => exact Std.OrientedCmp.not_lt_of_lt below above
  | constructible below =>
    cases back with
    | stage same => exact Nat.lt_irrefl _ same
    | constructible above => exact Std.OrientedCmp.not_lt_of_lt below above
  | home below =>
    cases back with
    | stage same => exact Nat.lt_irrefl _ same
    | home above => exact Std.OrientedCmp.not_lt_of_lt below above
  | set below =>
    cases back with
    | stage same => exact Nat.lt_irrefl _ same
    | set above => exact Std.OrientedCmp.not_lt_of_lt below above

end Site

/-! ## Well-formed worlds -/

/-- Both sides of the map are positive signed words, and its area is a word. -/
def WorldMap.Sized (m : WorldMap) : Prop :=
  (0 < m.width.toNat ∧ m.width.toNat ≤ 2147483647) ∧
    (0 < m.height.toNat ∧ m.height.toNat ≤ 2147483647) ∧ m.area ≤ 4294967295

namespace World

variable {w : World} {s : Site} {d : Defect} {what : Placed} {l : Location}

/-- The size of the map is valid, and whatever has a location lies on it. -/
structure WithinBounds (w : World) : Prop where
  size : w.map.Sized
  plots : ∀ plot ∈ w.map.plots, w.map.InBounds plot.location
  cities : ∀ id city, w.cities.get? id = some city → w.map.InBounds city.location
  purchases : ∀ id city, w.cities.get? id = some city →
    ∀ l ∈ city.purchasedPlots, w.map.InBounds l
  units : ∀ id unit, w.units.get? id = some unit → w.map.InBounds unit.location
  constructibles : ∀ id c, w.constructibles.get? id = some c → w.map.InBounds c.location

/-- Constructibles belong to cities that exist, and sets have no other name than their own. -/
structure Linked (w : World) : Prop where
  homes : ∀ id c city, w.constructibles.get? id = some c → c.city = some city →
    ∃ state, w.cities.get? city = some state
  sets : ∀ name set own, w.requirementSets.get? name = some set → set.id = some own → own = name

/-- What is wrong at a place of a world. -/
inductive DefectAt (w : World) : Site → Defect → Prop where
  | size (bad : ¬ w.map.Sized) : DefectAt w .map (.mapSize w.map.width w.map.height)
  | plot {n : Nat} {plot : PlotState} (listed : w.map.plots[n]? = some plot)
      (outside : ¬ w.map.InBounds plot.location) :
      DefectAt w (.plot n) (.offMap .plot plot.location w.map.width w.map.height)
  | city {id : CityId} {city : CityState} (listed : w.cities.get? id = some city)
      (outside : ¬ w.map.InBounds city.location) :
      DefectAt w (.city id none) (.offMap (.city id) city.location w.map.width w.map.height)
  | purchase {id : CityId} {city : CityState} {n : Nat} {l : Location}
      (listed : w.cities.get? id = some city) (purchased : city.purchasedPlots[n]? = some l)
      (outside : ¬ w.map.InBounds l) :
      DefectAt w (.city id (some n)) (.offMap (.purchasedPlot id) l w.map.width w.map.height)
  | unit {id : UnitId} {unit : UnitState} (listed : w.units.get? id = some unit)
      (outside : ¬ w.map.InBounds unit.location) :
      DefectAt w (.unit id) (.offMap (.unit id) unit.location w.map.width w.map.height)
  | constructible {id : ConstructibleId} {c : ConstructibleState}
      (listed : w.constructibles.get? id = some c) (outside : ¬ w.map.InBounds c.location) :
      DefectAt w (.constructible id)
        (.offMap (.constructible id) c.location w.map.width w.map.height)
  | home {id : ConstructibleId} {c : ConstructibleState} {city : CityId}
      (listed : w.constructibles.get? id = some c) (belongs : c.city = some city)
      (unknown : w.cities.get? city = none) : DefectAt w (.home id) (.unknownCity city id)
  | set {name own : DataName} {set : RequirementSet}
      (listed : w.requirementSets.get? name = some set) (named : set.id = some own)
      (other : own ≠ name) : DefectAt w (.set name) (.renamedSet name)

theorem DefectAt.isOutOfBounds_iff (h : w.DefectAt s d) : d.isOutOfBounds = true ↔ s.stage ≤ 4 := by
  cases h <;> simp [Defect.isOutOfBounds, Site.stage]

theorem withinBounds_iff : w.WithinBounds ↔ ∀ s d, w.DefectAt s d → d.isOutOfBounds = false := by
  constructor
  · intro within s d h
    cases h with
    | size bad => exact False.elim (bad within.size)
    | plot listed outside =>
      exact False.elim (outside (within.plots _ (List.mem_of_getElem? listed)))
    | city listed outside => exact False.elim (outside (within.cities _ _ listed))
    | purchase listed purchased outside =>
      exact False.elim (outside (within.purchases _ _ listed _ (List.mem_of_getElem? purchased)))
    | unit listed outside => exact False.elim (outside (within.units _ _ listed))
    | constructible listed outside => exact False.elim (outside (within.constructibles _ _ listed))
    | home => rfl
    | set => rfl
  · intro none
    have never {s : Site} {d : Defect} (out : d.isOutOfBounds = true) : ¬ w.DefectAt s d := by
      intro h
      rw [none s d h] at out
      cases out
    refine ⟨?_, ?_, ?_, ?_, ?_, ?_⟩
    · exact Classical.byContradiction fun bad => never rfl (.size bad)
    · intro plot listed
      obtain ⟨n, at_n⟩ := List.mem_iff_getElem?.mp listed
      exact Classical.byContradiction fun outside => never rfl (.plot at_n outside)
    · intro id city listed
      exact Classical.byContradiction fun outside => never rfl (.city listed outside)
    · intro id city listed l purchased
      obtain ⟨n, at_n⟩ := List.mem_iff_getElem?.mp purchased
      exact Classical.byContradiction fun outside => never rfl (.purchase listed at_n outside)
    · intro id unit listed
      exact Classical.byContradiction fun outside => never rfl (.unit listed outside)
    · intro id c listed
      exact Classical.byContradiction fun outside => never rfl (.constructible listed outside)

theorem linked_iff : w.Linked ↔ ∀ s d, w.DefectAt s d → d.isOutOfBounds = true := by
  constructor
  · intro linked s d h
    cases h with
    | home listed belongs unknown =>
      obtain ⟨state, known⟩ := linked.homes _ _ _ listed belongs
      cases unknown.symm.trans known
    | set listed named other => exact False.elim (other (linked.sets _ _ _ listed named))
    | _ => rfl
  · intro none
    have never {s : Site} {d : Defect} (inside : d.isOutOfBounds = false) : ¬ w.DefectAt s d := by
      intro h
      rw [none s d h] at inside
      cases inside
    constructor
    · intro id c city listed belongs
      cases known : w.cities.get? city with
      | some state => exact ⟨state, rfl⟩
      | none => exact False.elim (never rfl (.home listed belongs known))
    · intro name set own listed named
      exact Classical.byContradiction fun other => never rfl (.set listed named other)

/-! ## The search for a defect -/

def misplaced? (w : World) (what : Placed) (l : Location) : Option Defect :=
  if w.map.contains l then none else some (.offMap what l w.map.width w.map.height)

def homeless? (w : World) (id : ConstructibleId) (c : ConstructibleState) : Option Defect :=
  match c.city with
  | some city => if w.cities.contains city then none else some (.unknownCity city id)
  | none => none

def renamed? (name : DataName) (set : RequirementSet) : Option Defect :=
  match set.id with
  | some own => if own = name then none else some (.renamedSet name)
  | none => none

theorem misplaced?_eq_some_iff : w.misplaced? what l = some d ↔
    ¬ w.map.InBounds l ∧ d = .offMap what l w.map.width w.map.height := by
  rw [misplaced?, ← WorldMap.contains_iff_inBounds, Option.ite_none_left_eq_some,
    Option.some.injEq, eq_comm (a := d)]

theorem homeless?_eq_some_iff {id : ConstructibleId} {c : ConstructibleState} :
    w.homeless? id c = some d ↔ ∃ city, c.city = some city ∧ w.cities.get? city = none ∧
      d = .unknownCity city id := by
  unfold homeless?
  cases belongs : c.city with
  | none => simp
  | some city => cases known : w.cities.get? city <;> simp [SortedMap.contains, known, eq_comm]

theorem renamed?_eq_some_iff {name : DataName} {set : RequirementSet} :
    renamed? name set = some d ↔ ∃ own, set.id = some own ∧ own ≠ name ∧ d = .renamedSet name := by
  unfold renamed?
  cases named : set.id with
  | none => simp
  | some own => simp [eq_comm]

/-- The locations of a city and of what it has purchased, its own first. -/
def misplacedOf? (w : World) (id : CityId) (city : CityState) : Option Defect :=
  (w.misplaced? (.city id) city.location).or
    (city.purchasedPlots.findSome? (w.misplaced? (.purchasedPlot id)))

/-- The order of the search, one pass for each kind of place. -/
theorem defect?_eq_passes (w : World) : w.defect? =
    ((((((w.sizeDefect?.or
      (w.map.plots.findSome? fun plot => w.misplaced? .plot plot.location)).or
      (w.cities.entries.findSome? fun e => w.misplacedOf? e.1 e.2)).or
      (w.units.entries.findSome? fun e => w.misplaced? (.unit e.1) e.2.location)).or
      (w.constructibles.entries.findSome? fun e =>
        w.misplaced? (.constructible e.1) e.2.location)).or
      (w.constructibles.entries.findSome? fun e => w.homeless? e.1 e.2)).or
      (w.requirementSets.entries.findSome? fun e => renamed? e.1 e.2)) := by
  have placements : w.placementDefect? = w.placements.findSome? fun p => w.misplaced? p.1 p.2 :=
    rfl
  have city (id : CityId) (city : CityState) :
      ((Placed.city id, city.location) :: city.purchasedPlots.map fun l =>
        (Placed.purchasedPlot id, l)).findSome? (fun p => w.misplaced? p.1 p.2) =
      w.misplacedOf? id city := by
    rw [findSome?_cons_or, List.findSome?_map]
    rfl
  simp only [defect?, Option.orElse_eq_orElse, Option.orElse_eq_or, placements, World.placements,
    List.findSome?_append, findSome?_flatMap, List.findSome?_map, Option.or_assoc, city]
  rfl

/-- What a pass finds comes behind all that earlier passes find. -/
theorem first_of_pass {k : Nat} {o o' : Option Defect}
    (earlier : FirstFound Site.Before (fun s d => s.stage < k ∧ w.DefectAt s d) o)
    (pass : FirstFound Site.Before (fun s d => s.stage = k ∧ w.DefectAt s d) o') :
    FirstFound Site.Before (fun s d => s.stage < k + 1 ∧ w.DefectAt s d) (o.or o') := by
  refine (earlier.or pass ?_).congr fun s d => ?_
  · rintro s d s' d' ⟨low, _⟩ ⟨rfl, _⟩
    exact .stage low
  · rw [← or_and_right, Nat.lt_succ_iff_lt_or_eq]

theorem first_size : FirstFound Site.Before (fun s d => s.stage < 1 ∧ w.DefectAt s d)
    w.sizeDefect? := by
  refine (FirstFound.single Site.map _).congr fun s d => ?_
  rw [sizeDefect?, Option.ite_none_left_eq_some, WorldMap.hasValidSize_iff]
  constructor
  · rintro ⟨rfl, bad, ⟨⟩⟩
    exact ⟨Nat.zero_lt_one, .size bad⟩
  · rintro ⟨low, h⟩
    cases h with
    | size bad => exact ⟨rfl, bad, rfl⟩
    | _ => simp [Site.stage] at low

theorem first_plot : FirstFound Site.Before (fun s d => s.stage = 1 ∧ w.DefectAt s d)
    (w.map.plots.findSome? fun plot => w.misplaced? .plot plot.location) := by
  refine (FirstFound.positions (fun _ _ => .plot) _ _).congr fun s d => ?_
  constructor
  · rintro ⟨n, plot, listed, rfl, h⟩
    obtain ⟨outside, rfl⟩ := misplaced?_eq_some_iff.mp h
    exact ⟨rfl, .plot listed outside⟩
  · rintro ⟨stage, h⟩
    cases h with
    | plot listed outside =>
      exact ⟨_, _, listed, rfl, misplaced?_eq_some_iff.mpr ⟨outside, rfl⟩⟩
    | _ => simp [Site.stage] at stage

theorem first_city : FirstFound Site.Before (fun s d => s.stage = 2 ∧ w.DefectAt s d)
    (w.cities.entries.findSome? fun e => w.misplacedOf? e.1 e.2) := by
  have each (id : CityId) (city : CityState) :=
    (FirstFound.single (Site.city id none) (w.misplaced? (.city id) city.location)).or
      (FirstFound.positions (fun _ _ => Site.Before.purchase)
        (w.misplaced? (.purchasedPlot id)) city.purchasedPlots)
      (by rintro _ _ _ _ ⟨rfl, _⟩ ⟨n, l, _, rfl, _⟩; exact .purchases)
  refine (FirstFound.entries each ?_ w.cities).congr fun s d => ?_
  · rintro id city id' city' below s d s' d' (⟨rfl, _⟩ | ⟨n, l, _, rfl, _⟩)
      (⟨rfl, _⟩ | ⟨n', l', _, rfl, _⟩) <;> exact .city below
  · constructor
    · rintro ⟨id, city, listed, ⟨rfl, h⟩ | ⟨n, l, purchased, rfl, h⟩⟩
      · obtain ⟨outside, rfl⟩ := misplaced?_eq_some_iff.mp h
        exact ⟨rfl, .city listed outside⟩
      · obtain ⟨outside, rfl⟩ := misplaced?_eq_some_iff.mp h
        exact ⟨rfl, .purchase listed purchased outside⟩
    · rintro ⟨stage, h⟩
      cases h with
      | city listed outside =>
        exact ⟨_, _, listed, Or.inl ⟨rfl, misplaced?_eq_some_iff.mpr ⟨outside, rfl⟩⟩⟩
      | purchase listed purchased outside =>
        exact ⟨_, _, listed,
          Or.inr ⟨_, _, purchased, rfl, misplaced?_eq_some_iff.mpr ⟨outside, rfl⟩⟩⟩
      | _ => simp [Site.stage] at stage

theorem first_unit : FirstFound Site.Before (fun s d => s.stage = 3 ∧ w.DefectAt s d)
    (w.units.entries.findSome? fun e => w.misplaced? (.unit e.1) e.2.location) := by
  refine (FirstFound.keys (fun _ _ => .unit)
    (fun id (unit : UnitState) => w.misplaced? (.unit id) unit.location) w.units).congr
    fun s d => ?_
  constructor
  · rintro ⟨id, unit, listed, rfl, h⟩
    obtain ⟨outside, rfl⟩ := misplaced?_eq_some_iff.mp h
    exact ⟨rfl, .unit listed outside⟩
  · rintro ⟨stage, h⟩
    cases h with
    | unit listed outside =>
      exact ⟨_, _, listed, rfl, misplaced?_eq_some_iff.mpr ⟨outside, rfl⟩⟩
    | _ => simp [Site.stage] at stage

theorem first_constructible :
    FirstFound Site.Before (fun s d => s.stage = 4 ∧ w.DefectAt s d)
      (w.constructibles.entries.findSome? fun e =>
        w.misplaced? (.constructible e.1) e.2.location) := by
  refine (FirstFound.keys (fun _ _ => .constructible)
    (fun id (c : ConstructibleState) => w.misplaced? (.constructible id) c.location)
    w.constructibles).congr fun s d => ?_
  constructor
  · rintro ⟨id, c, listed, rfl, h⟩
    obtain ⟨outside, rfl⟩ := misplaced?_eq_some_iff.mp h
    exact ⟨rfl, .constructible listed outside⟩
  · rintro ⟨stage, h⟩
    cases h with
    | constructible listed outside =>
      exact ⟨_, _, listed, rfl, misplaced?_eq_some_iff.mpr ⟨outside, rfl⟩⟩
    | _ => simp [Site.stage] at stage

theorem first_home : FirstFound Site.Before (fun s d => s.stage = 5 ∧ w.DefectAt s d)
    (w.constructibles.entries.findSome? fun e => w.homeless? e.1 e.2) := by
  refine (FirstFound.keys (fun _ _ => .home) w.homeless? w.constructibles).congr fun s d => ?_
  constructor
  · rintro ⟨id, c, listed, rfl, h⟩
    obtain ⟨city, belongs, unknown, rfl⟩ := homeless?_eq_some_iff.mp h
    exact ⟨rfl, .home listed belongs unknown⟩
  · rintro ⟨stage, h⟩
    cases h with
    | home listed belongs unknown =>
      exact ⟨_, _, listed, rfl, homeless?_eq_some_iff.mpr ⟨_, belongs, unknown, rfl⟩⟩
    | _ => simp [Site.stage] at stage

theorem first_set : FirstFound Site.Before (fun s d => s.stage = 6 ∧ w.DefectAt s d)
    (w.requirementSets.entries.findSome? fun e => renamed? e.1 e.2) := by
  refine (FirstFound.keys (fun _ _ => .set) renamed? w.requirementSets).congr fun s d => ?_
  constructor
  · rintro ⟨name, set, listed, rfl, h⟩
    obtain ⟨own, named, other, rfl⟩ := renamed?_eq_some_iff.mp h
    exact ⟨rfl, .set listed named other⟩
  · rintro ⟨stage, h⟩
    cases h with
    | set listed named other =>
      exact ⟨_, _, listed, rfl, renamed?_eq_some_iff.mpr ⟨_, named, other, rfl⟩⟩
    | _ => simp [Site.stage] at stage

/-- The passes of the search, put together. -/
theorem first_defect (w : World) : FirstFound Site.Before w.DefectAt w.defect? := by
  have locations := first_of_pass (first_of_pass (first_of_pass (first_of_pass first_size
    first_plot) first_city) first_unit) (first_constructible (w := w))
  have passes := first_of_pass (first_of_pass locations first_home) first_set
  rw [defect?_eq_passes]
  refine passes.congr fun s d => and_iff_right ?_
  cases s <;> simp [Site.stage]

theorem defect?_eq_some_iff : w.defect? = some d ↔
    ∃ s, w.DefectAt s d ∧ ∀ s' d', s'.Before s → ¬ w.DefectAt s' d' :=
  w.first_defect.eq_some_iff Site.Before.asymm

theorem wellFormed_iff : w.defect? = none ↔ w.WithinBounds ∧ w.Linked := by
  rw [w.first_defect.eq_none_iff, withinBounds_iff, linked_iff]
  constructor
  · intro nothing
    exact ⟨fun s d h => False.elim (nothing s d h), fun s d h => False.elim (nothing s d h)⟩
  · rintro ⟨within, linked⟩ s d h
    cases (within s d h).symm.trans (linked s d h)

/-- A violation of bounds is behind none but others of its kind. -/
theorem isOutOfBounds_of_defect? (out : w.DefectAt s d) (bounds : d.isOutOfBounds = true) :
    ∃ d', w.defect? = some d' ∧ d'.isOutOfBounds = true := by
  have first := w.first_defect
  cases reported : w.defect? with
  | none =>
    rw [reported] at first
    exact False.elim (first s d out)
  | some d' =>
    rw [reported] at first
    obtain ⟨s', here, least⟩ := first
    refine ⟨d', rfl, here.isOutOfBounds_iff.mpr ?_⟩
    rcases least s d out with ⟨rfl, rfl⟩ | later
    · exact here.isOutOfBounds_iff.mp bounds
    · exact Nat.le_trans later.stage_le (out.isOutOfBounds_iff.mp bounds)

theorem isOutOfBounds_iff : (∃ d, w.defect? = some d ∧ d.isOutOfBounds = true) ↔
    ¬ w.WithinBounds := by
  rw [withinBounds_iff]
  constructor
  · rintro ⟨d, reported, bounds⟩ within
    obtain ⟨s, here, _⟩ := defect?_eq_some_iff.mp reported
    cases bounds.symm.trans (within s d here)
  · intro outside
    obtain ⟨s, outside⟩ := Classical.not_forall.mp outside
    obtain ⟨d, outside⟩ := Classical.not_forall.mp outside
    obtain ⟨here, bounds⟩ := Classical.not_imp.mp outside
    exact isOutOfBounds_of_defect? here (Bool.of_not_eq_false bounds)

theorem isUnlinked_iff : (∃ d, w.defect? = some d ∧ d.isOutOfBounds = false) ↔
    w.WithinBounds ∧ ¬ w.Linked := by
  constructor
  · rintro ⟨d, reported, inside⟩
    constructor
    · refine Classical.byContradiction fun outside => ?_
      obtain ⟨d', reported', bounds⟩ := isOutOfBounds_iff.mpr outside
      obtain rfl := Option.some.inj (reported.symm.trans reported')
      cases inside.symm.trans bounds
    · intro linked
      obtain ⟨s, here, _⟩ := defect?_eq_some_iff.mp reported
      cases inside.symm.trans (linked_iff.mp linked s d here)
  · rintro ⟨within, unlinked⟩
    cases reported : w.defect? with
    | none => exact False.elim (unlinked (wellFormed_iff.mp reported).2)
    | some d =>
      obtain ⟨s, here, _⟩ := defect?_eq_some_iff.mp reported
      exact ⟨d, rfl, withinBounds_iff.mp within s d here⟩

/-- A world without a defect is a well-formed one, and the defect of any other is the violation at
the first of all places that have one. It is a violation of bounds whenever there is such a one,
and so a city or a name is only reported when the size and all locations are right. -/
theorem defect?_is_first_violation (w : World) :
    (w.defect? = none ↔ w.WithinBounds ∧ w.Linked) ∧
    (∀ d, w.defect? = some d ↔
      ∃ s, w.DefectAt s d ∧ ∀ s' d', s'.Before s → ¬ w.DefectAt s' d') ∧
    ((∃ d, w.defect? = some d ∧ d.isOutOfBounds = true) ↔ ¬ w.WithinBounds) ∧
    ((∃ d, w.defect? = some d ∧ d.isOutOfBounds = false) ↔ w.WithinBounds ∧ ¬ w.Linked) :=
  ⟨wellFormed_iff, fun _ => defect?_eq_some_iff, isOutOfBounds_iff, isUnlinked_iff⟩

end World

namespace Harbour

/-- A boat off the map is found before a fishery of no city, whichever has the lower number. -/
example : { world with
      units := SortedMap.insert {} ⟨9⟩ ⟨.first, "UNIT_FISHING_BOAT", ⟨2, 0⟩, false⟩
      constructibles := SortedMap.insert {} ⟨7⟩ ⟨"IMPROVEMENT_FISHERY", pier, some ⟨5⟩, false⟩
    }.defect? = some (.offMap (.unit ⟨9⟩) ⟨2, 0⟩ 2 2) := by
  decide

end Harbour

end YieldRules
