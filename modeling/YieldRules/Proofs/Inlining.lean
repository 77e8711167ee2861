import YieldRules.Proofs.DepthLimit
import YieldRules.Proofs.Duality

/-!
# References written out

A reference stands for the requirements of the set that it names. Sets that
combine in the same way may list them in its place; an inverted reference needs
sets that combine in opposite ways, and its requirements are inverted, which a
game must leave to the evaluation. Written out they are one reference nearer, so
every outcome that does not report the limit stays the same.
-/

namespace YieldRules

/-- The requirements that may stand in the place of a reference to a set, where the set around
them is of some type. Whatever is not `any` asks for all requirements. -/
inductive WrittenOut (outer : RequirementSetType) (r : Requirement) (t : RequirementSet) :
    List Requirement → Prop where
  | all (plain : r.inverse = false) (outside : outer ≠ .any) (inside : t.setType ≠ .any) :
      WrittenOut outer r t t.requirements
  | any (plain : r.inverse = false) (outside : outer = .any) (inside : t.setType = .any) :
      WrittenOut outer r t t.requirements
  | notAny (opposite : r.inverse = true) (outside : outer ≠ .any) (inside : t.setType = .any) :
      WrittenOut outer r t (t.requirements.map .inverted)
  | notAll (opposite : r.inverse = true) (outside : outer = .any) (inside : t.setType ≠ .any) :
      WrittenOut outer r t (t.requirements.map .inverted)

namespace Kept

variable {α : Type} {c : Combinator}

theorem andThen {first first' second second' : Except Fault Bool} (kept : Kept first first')
    (later : Kept second second') : Kept (c.andThen first second) (c.andThen first' second') := by
  rcases kept with ⟨id, limit, rfl⟩ | rfl
  · exact Or.inl ⟨id, limit, rfl⟩
  · cases first' with
    | error e => exact refl _
    | ok b =>
      by_cases hb : b = c.neutral
      · subst b
        rw [Combinator.andThen_neutral, Combinator.andThen_neutral]
        exact later
      · simp only [Combinator.andThen, if_neg hb]
        exact refl _

/-- Members may take the place of one whose result is their combination. -/
theorem combine_inPlace {test : α → Except Fault Bool} {before after xs : List α} {x : α}
    (kept : Kept (test x) (c.combine test xs)) :
    Kept (c.combine test (before ++ [x] ++ after)) (c.combine test (before ++ xs ++ after)) := by
  simp only [Combinator.combine_append, Combinator.combine_singleton]
  exact ((refl _).andThen kept).andThen (refl _)

end Kept

namespace Context

variable {ctx : Context} {player : PlayerId} {subject : Subject} {n : Nat}
variable {set t : RequirementSet} {r : Requirement} {id : DataName} {ts : List Requirement}

/-- Without regard to the limit, the requirements written out have the result of the reference. -/
theorem combine_writtenOut (written : WrittenOut set.setType r t ts)
    (ignores : r.inverse = true → ∀ q ∈ t.requirements, q.kind ≠ .setReference →
      ctx.rules.IgnoresInversion player subject q) :
    set.setType.combinator.combine (ctx.meets player subject n) ts =
      (ctx.meetsSet player subject n t).map (· != r.inverse) := by
  have unchanged (out : Except Fault Bool) : out.map (· != false) = out := by
    cases out <;> simp [Except.map]
  have reversed (out : Except Fault Bool) : out.map (· != true) = out.map (!·) := by
    cases out <;> simp [Except.map]
  cases written with
  | all plain outside inside =>
    rw [plain, unchanged, meetsSet, RequirementSetType.combinator_all outside,
      RequirementSetType.combinator_all inside]
  | any plain outside inside => rw [plain, unchanged, meetsSet, outside, inside]
  | notAny opposite outside inside =>
    rw [opposite, reversed, meetsSet, RequirementSetType.combinator_all outside, inside]
    exact combine_inverted .any (ignores opposite)
  | notAll opposite outside inside =>
    rw [opposite, reversed, meetsSet, outside, RequirementSetType.combinator_all inside]
    exact combine_inverted .all (ignores opposite)

/-- A set behind a reference may follow one reference less than its requirements written out. -/
theorem meets_writtenOut (refers : r.RefersTo id)
    (registered : ctx.rules.requirementSet id = some t) (written : WrittenOut set.setType r t ts)
    (ignores : r.inverse = true → ∀ q ∈ t.requirements, q.kind ≠ .setReference →
      ctx.rules.IgnoresInversion player subject q) :
    Kept (ctx.meets player subject n r)
      (set.setType.combinator.combine (ctx.meets player subject n) ts) := by
  cases n with
  | zero => exact Or.inl ⟨id, _, meets_exhausted refers⟩
  | succ n =>
    rw [meets_registered refers registered, combine_writtenOut written ignores]
    exact Kept.map (Kept.combine fun q _ => meets_kept rfl (Nat.le_succ n) q) _

/-- A reference and the requirements that it stands for are interchangeable, unless the limit is
exceeded. The game may be any, but for an inverted reference it must leave the inversion of the
tests in the set behind it to the evaluation. -/
theorem isEligible_of_writtenOut (ctx : Context) (player : PlayerId) (subject : Subject)
    {set t : RequirementSet} {r : Requirement} {id : DataName} {ts : List Requirement}
    (before after : List Requirement) (listed : set.requirements = before ++ [r] ++ after)
    (refers : r.RefersTo id) (registered : ctx.rules.requirementSet id = some t)
    (written : WrittenOut set.setType r t ts)
    (ignores : r.inverse = true → ∀ q ∈ t.requirements, q.kind ≠ .setReference →
      ctx.rules.IgnoresInversion player subject q)
    (settled : ¬ TooDeep (ctx.isEligible player subject (some set))) :
    ctx.isEligible player subject (some { set with requirements := before ++ ts ++ after }) =
      ctx.isEligible player subject (some set) := by
  refine Kept.eq ?_ settled
  rw [isEligible, isEligible, meetsSet, meetsSet, listed]
  exact Kept.combine_inPlace (meets_writtenOut refers registered written ignores)

end Context

namespace Circle

/-- Asks that the set `CIRCLE` does not hold. -/
def exit : RequirementSet :=
  .allOf [alwaysMet, (Requirement.reference "CIRCLE").inverted, alwaysMet]

def exitWrittenOut : RequirementSet :=
  .allOf [alwaysMet, alwaysMet.inverted, (Requirement.reference "CIRCLE").inverted, alwaysMet]

theorem isEligible_of_writtenOut_circle :
    (context set 1).isEligible .first (.player .first) (some exit) = .ok false ∧
    (context set 1).isEligible .first (.player .first) (some exitWrittenOut) =
      (context set 1).isEligible .first (.player .first) (some exit) := by
  have answer : (context set 1).isEligible .first (.player .first) (some exit) = .ok false := by
    rfl
  have refers : (Requirement.reference "CIRCLE").inverted.RefersTo "CIRCLE" := ⟨rfl, rfl⟩
  have written : WrittenOut exit.setType (Requirement.reference "CIRCLE").inverted set
      [alwaysMet.inverted, (Requirement.reference "CIRCLE").inverted] :=
    .notAny rfl (by decide) rfl
  refine ⟨answer, Context.isEligible_of_writtenOut (context set 1) .first (.player .first)
    [alwaysMet] [alwaysMet] rfl refers rfl written
    (fun _ q _ _ => World.ignoresInversion .empty .first (.player .first) q) ?_⟩
  rintro ⟨id, limit, tooDeep⟩
  rw [answer] at tooDeep
  cases tooDeep

/-- Asks for nothing but that the set `CIRCLE` does not hold. -/
def refusal : RequirementSet :=
  .allOf [(Requirement.reference "CIRCLE").inverted]

/-- Where tests see their inversion an inverted reference is told from what it stands for, although
the limit is not exceeded. -/
theorem writtenOut_answers_differ :
    refusal.requirements = [] ++ [(Requirement.reference "CIRCLE").inverted] ++ [] ∧
    (Requirement.reference "CIRCLE").inverted.RefersTo "CIRCLE" ∧
    (contrary (.anyOf [test]) 1).rules.requirementSet "CIRCLE" = some (.anyOf [test]) ∧
    WrittenOut refusal.setType (Requirement.reference "CIRCLE").inverted (.anyOf [test])
      [test.inverted] ∧
    (contrary (.anyOf [test]) 1).isEligible .first (.player .first) (some refusal) = .ok true ∧
    (contrary (.anyOf [test]) 1).isEligible .first (.player .first)
      (some { refusal with requirements := [] ++ [test.inverted] ++ [] }) = .ok false :=
  ⟨rfl, ⟨rfl, rfl⟩, rfl, .notAny rfl (by decide) rfl, by rfl, by rfl⟩

end Circle

end YieldRules
