import YieldRules.Warehouse.Rule

/-!
# Precedence of conditions

A rule may populate several columns. Its condition is the populated one of the
lowest rank; an empty name populates nothing, and columns of a higher rank have
no influence.
-/

namespace YieldRules.Warehouse

/-- The place of a condition in the order of precedence. -/
def Condition.rank : Condition → Nat
  | lake => 0
  | minorRiver => 1
  | navigableRiver => 2
  | biome _ => 3
  | constructible _ => 4
  | feature _ => 5
  | featureClass _ => 6
  | naturalWonder => 7
  | resource => 8
  | route => 9
  | terrain _ => 10
  | terrainTag _ => 11
  | overbuilt => 12
  | district _ => 13

namespace Rule

/-- The column of a condition is populated, and with what the condition asks for. -/
def Populates (r : Rule) : Condition → Prop
  | .lake => r.lake = true
  | .minorRiver => r.minorRiver = true
  | .navigableRiver => r.navigableRiver = true
  | .biome s => r.biome = some s ∧ s ≠ ""
  | .constructible s => r.constructible = some s ∧ s ≠ ""
  | .feature s => r.feature = some s ∧ s ≠ ""
  | .featureClass s => r.featureClass = some s ∧ s ≠ ""
  | .naturalWonder => r.naturalWonder = true
  | .resource => r.resource = true
  | .route => r.route = true
  | .terrain s => r.terrain = some s ∧ s ≠ ""
  | .terrainTag s => r.terrainTag = some s ∧ s ≠ ""
  | .overbuilt => r.overbuilt = true
  | .district s => r.district = some s ∧ s ≠ ""

/-- The populated condition that comes first. -/
structure First (r : Rule) (c : Condition) : Prop where
  populated : r.Populates c
  precedes : ∀ other, r.Populates other → c.rank ≤ other.rank

variable {r other : Rule} {c d : Condition}

theorem flagged_eq_some_iff {flag : Bool} : flagged flag c = some d ↔ flag = true ∧ c = d := by
  simp only [flagged, Option.ite_none_right_eq_some, Option.some.injEq]

theorem named_eq_some_iff {column : Option String} {condition : String → Condition} :
    named column condition = some d ↔ ∃ s, (column = some s ∧ s ≠ "") ∧ condition s = d := by
  simp [named, Option.map_eq_some_iff, Option.filter_eq_some_iff]

theorem populates_iff_column : r.Populates c ↔ r.columns[c.rank]? = some (some c) := by
  cases c <;>
    simp [Populates, Condition.rank, columns, flagged_eq_some_iff, named_eq_some_iff]

theorem rank_of_column {i : Nat} (h : r.columns[i]? = some (some c)) : c.rank = i := by
  -- Whatever a column holds, it is a condition of the rank that is the place of the column.
  have ranks : ∀ e ∈ r.columns.zipIdx, ∀ d, e.1 = some d → d.rank = e.2 := by
    simp only [columns, List.zipIdx_cons, List.zipIdx_nil, List.forall_mem_cons,
      flagged_eq_some_iff, named_eq_some_iff]
    and_intros <;> grind [Condition.rank]
  exact ranks (some c, i) (List.mem_zipIdx_iff_getElem?.mpr h) c rfl

/-- Columns in front of the condition are not populated. -/
theorem condition?_first (h : r.condition? = some c) : r.First c := by
  obtain ⟨before, column, after, split, rfl, unpopulated⟩ := List.findSome?_eq_some_iff.mp h
  have here : r.columns[before.length]? = some (some c) := by simp [split]
  have rank := rank_of_column here
  refine ⟨populates_iff_column.mpr (rank ▸ here), fun d populated => ?_⟩
  have column := populates_iff_column.mp populated
  rw [rank]
  refine Nat.le_of_not_lt fun earlier => ?_
  rw [split, List.getElem?_append_left earlier] at column
  have absent := unpopulated _ (List.mem_of_getElem? column)
  cases absent

theorem First.unique (first : r.First c) (first' : r.First d) : c = d := by
  have sameRank : c.rank = d.rank :=
    Nat.le_antisymm (first.precedes d first'.populated) (first'.precedes c first.populated)
  have column := populates_iff_column.mp first.populated
  rw [sameRank, populates_iff_column.mp first'.populated] at column
  simpa using column.symm

theorem condition?_eq_none_iff : r.condition? = none ↔ ∀ c, ¬ r.Populates c := by
  constructor
  · intro h c populated
    have empty := List.findSome?_eq_none_iff.mp h (some c)
      (List.mem_of_getElem? (populates_iff_column.mp populated))
    cases empty
  · intro unpopulated
    cases h : r.condition? with
    | none => rfl
    | some c => exact False.elim (unpopulated c (condition?_first h).populated)

theorem condition?_eq_some_iff : r.condition? = some c ↔ r.First c := by
  constructor
  · exact condition?_first
  · intro first
    cases h : r.condition? with
    | none => exact False.elim (condition?_eq_none_iff.mp h c first.populated)
    | some d => rw [(condition?_first h).unique first]

/-- What is populated behind the first condition has no influence on which it is. -/
theorem First.of_agree (first : r.First c)
    (agree : ∀ d, d.rank ≤ c.rank → (other.Populates d ↔ r.Populates d)) : other.First c := by
  refine ⟨(agree c (Nat.le_refl _)).mpr first.populated, fun d populated => ?_⟩
  refine Nat.le_of_not_lt fun earlier => ?_
  have precedes := first.precedes d ((agree d (Nat.le_of_lt earlier)).mp populated)
  omega

end Rule

end YieldRules.Warehouse
