import YieldRules.Proofs.Filtering

/-!
# Splitting a list of requirements

A list of requirements may be gone through in two parts. The second part counts
only where the first decides nothing, and whatever it holds is not looked at
elsewhere. So under requirements that must all hold a longer list chooses among
the subjects of a shorter one, and under requirements of which any may hold it
loses none of them.
-/

namespace YieldRules

/-! ## Tests one after the other -/

section

variable {α ε : Type} {first second whole : α → Except ε Bool} {xs kept : List α}

/-- The whole test goes on to the second where the first answers `b`, and stops with the outcome
of the first elsewhere. -/
structure GoesOn (b : Bool) (first second whole : α → Except ε Bool) : Prop where
  onward : ∀ x, first x = .ok b → whole x = second x
  stopped : ∀ x, first x ≠ .ok b → whole x = first x

theorem GoesOn.passing_eq (goesOn : GoesOn true first second whole) (xs : List α) :
    passing whole xs = passing second (passing first xs) := by
  rw [passing, passing, passing, List.filter_filter]
  refine List.filter_congr fun x _ => Bool.eq_iff_iff.mpr ?_
  rw [Bool.and_eq_true, passes_iff, passes_iff, passes_iff]
  by_cases passed : first x = .ok true
  · simp only [goesOn.onward x passed, passed, and_true]
  · simp only [goesOn.stopped x passed, passed, and_false]

/-- Only what the first test keeps has to be judged by the second. -/
theorem GoesOn.judged_iff (goesOn : GoesOn true first second whole) :
    Judged whole xs ↔ Judged first xs ∧ Judged second (passing first xs) := by
  constructor
  · intro judged
    refine ⟨fun x hx => ?_, fun x hx => ?_⟩
    · by_cases passed : first x = .ok true
      · exact ⟨true, passed⟩
      · exact goesOn.stopped x passed ▸ judged x hx
    · obtain ⟨listed, passed⟩ := mem_passing.mp hx
      exact goesOn.onward x passed ▸ judged x listed
  · rintro ⟨judged, later⟩ x hx
    by_cases passed : first x = .ok true
    · rw [goesOn.onward x passed]
      exact later x (mem_passing.mpr ⟨hx, passed⟩)
    · rw [goesOn.stopped x passed]
      exact judged x hx

/-- To filter by one test and then by another is to filter by both in turn, faults included. -/
theorem GoesOn.filtered_iff (goesOn : GoesOn true first second whole) :
    filterChecked whole xs = .ok kept ↔
      ∃ chosen, filterChecked first xs = .ok chosen ∧ filterChecked second chosen = .ok kept := by
  simp only [filterChecked_eq_ok_iff, goesOn.judged_iff, goesOn.passing_eq]
  constructor
  · rintro ⟨⟨judged, later⟩, rfl⟩
    exact ⟨_, ⟨judged, rfl⟩, later, rfl⟩
  · rintro ⟨chosen, ⟨judged, rfl⟩, later, rfl⟩
    exact ⟨⟨judged, later⟩, rfl⟩

/-- A second test that is tried where the first fails can only add to what the first keeps. -/
theorem GoesOn.sublist (goesOn : GoesOn false first second whole) {kept' : List α}
    (h : filterChecked first xs = .ok kept) (h' : filterChecked whole xs = .ok kept') :
    kept.Sublist kept' := by
  refine filterChecked_sublist (fun x _ b held answered => ?_) h h'
  have holds : first x ≠ .ok false := by
    rw [held]
    simp
  rw [goesOn.stopped x holds, held] at answered
  exact (Except.ok.inj answered).symm

end

/-- A set lists the requirements of one set and after them those of another, and all three ask
alike for all of their requirements or for any. -/
structure RequirementSet.SplitsInto (whole first second : RequirementSet) : Prop where
  firstTest : first.setType = .any ↔ whole.setType = .any
  secondTest : second.setType = .any ↔ whole.setType = .any
  requirements : whole.requirements = first.requirements ++ second.requirements

theorem RequirementSet.splitsInto_append (id id₁ id₂ : Option DataName) (type : RequirementSetType)
    (xs ys : List Requirement) :
    SplitsInto ⟨id, type, xs ++ ys⟩ ⟨id₁, type, xs⟩ ⟨id₂, type, ys⟩ :=
  ⟨Iff.rfl, Iff.rfl, rfl⟩

namespace Context

variable {ctx : Context} {player : PlayerId} {subject : Subject}
variable {whole first second : RequirementSet}

theorem isEligible_of_split (split : whole.SplitsInto first second) :
    ctx.isEligible player subject (some whole) =
      whole.setType.combinator.andThen (ctx.isEligible player subject (some first))
        (ctx.isEligible player subject (some second)) := by
  simp only [isEligible, meetsSet, split.requirements, Combinator.combine_append,
    RequirementSetType.combinator_congr split.firstTest,
    RequirementSetType.combinator_congr split.secondTest]

theorem goesOn_of_split (ctx : Context) (player : PlayerId)
    (split : whole.SplitsInto first second) :
    GoesOn whole.setType.combinator.neutral
      (fun s => ctx.isEligible player s (some first))
      (fun s => ctx.isEligible player s (some second))
      (fun s => ctx.isEligible player s (some whole)) where
  onward s passed := by
    rw [isEligible_of_split split, passed, Combinator.andThen_neutral]
  stopped s decided := by
    rw [isEligible_of_split split, Combinator.andThen_decided decided]

/-- Requirements that must all hold may be tested in two parts, the second only where the first
holds, so that resolving the whole list is resolving its first part and filtering by the second.
Of requirements that any may hold the second part is tested only where the first does not, and
with it no subject is lost. -/
theorem outcome_of_split (ctx : Context) (player : PlayerId)
    (split : whole.SplitsInto first second) :
    (whole.setType ≠ .any →
      GoesOn true (fun s => ctx.isEligible player s (some first))
        (fun s => ctx.isEligible player s (some second))
        (fun s => ctx.isEligible player s (some whole)) ∧
      ∀ (m : Modifier) parent l,
        ctx.subjects player (m.withSubjectRequirements whole) parent = .ok l ↔ ∃ chosen,
          ctx.subjects player (m.withSubjectRequirements first) parent = .ok chosen ∧
          (∀ s ∈ chosen, ∃ b, ctx.isEligible player s (some second) = .ok b) ∧
          l = chosen.filter fun s =>
            (ctx.isEligible player s (some second)).toOption == some true) ∧
    (whole.setType = .any →
      GoesOn false (fun s => ctx.isEligible player s (some first))
        (fun s => ctx.isEligible player s (some second))
        (fun s => ctx.isEligible player s (some whole)) ∧
      ∀ (m : Modifier) parent few many,
        ctx.subjects player (m.withSubjectRequirements first) parent = .ok few →
        ctx.subjects player (m.withSubjectRequirements whole) parent = .ok many →
        few.Sublist many) := by
  have goesOn := goesOn_of_split ctx player split
  constructor
  · intro asksForAll
    rw [RequirementSetType.combinator_all asksForAll] at goesOn
    refine ⟨goesOn, fun m parent l => ?_⟩
    refine goesOn.filtered_iff.trans (exists_congr fun chosen => ?_)
    exact and_congr_right fun _ => filterChecked_eq_ok_iff
  · intro asksForAny
    rw [asksForAny] at goesOn
    exact ⟨goesOn, fun m parent few many => goesOn.sublist⟩

end Context

namespace Harbour

def lake : Requirement :=
  .ofKind (.predicate "REQUIREMENT_PLOT_IS_LAKE")

def capital : Requirement :=
  .ofKind (.predicate "REQUIREMENT_CITY_IS_CAPITAL")

/-- A modifier for plots of the player. -/
def onPlots (set : RequirementSet) : Modifier :=
  (Modifier.ofEffect .playerPlots "EFFECT").withSubjectRequirements set

/-- The land is no lake, so a reference without a name behind that test is not looked at. -/
theorem outcome_of_split_harbour :
    (world.context .default).isEligible .first (.plot city (world.map.indexOf .origin))
      (some (.allOf ([lake] ++ [.ofKind .setReference]))) = .ok false ∧
    (world.context .default).subjects .first (onPlots (.allOf ([lake] ++ [capital]))) none =
      .ok (List.replicate 4 (.plot city (world.map.indexOf pier))) ∧
    (List.replicate 4 (.plot city (world.map.indexOf pier))).Sublist
      ((world.context .default).candidates .first none .playerPlots) := by
  have splits := RequirementSet.splitsInto_append none none none
  have all (ys : List Requirement) := (Context.outcome_of_split (world.context .default) .first
    (splits .all [lake] ys)).1 (by simp)
  have any := (Context.outcome_of_split (world.context .default) .first
    (splits .any [lake] [capital])).2 rfl
  have onLand : (world.context .default).isEligible .first
      (.plot city (world.map.indexOf .origin)) (some (.allOf [lake])) = .ok false := by
    rfl
  refine ⟨((all _).1.stopped _ fun held => ?_).trans onLand, ((all _).2 _ none _).mpr ?_, ?_⟩
  · cases onLand.symm.trans held
  · exact ⟨_, by rfl, fun s _ => ⟨_, Context.isEligible_of_test rfl rfl none⟩, by rfl⟩
  · exact any.2 (onPlots (.anyOf [lake])) none _ _ (by rfl) (by rfl)

end Harbour

end YieldRules
