import YieldRules.Proofs.Combination
import YieldRules.Proofs.References

/-!
# Opposite sets of requirements

The opposite of a set combines the opposites of its requirements in the other
way, and it has the opposite answer: both stop at the same requirement, and a
fault is the same fault. The sets that are referred to stay as they are. Games
that answer for a test without regard to its inversion keep this law, and no
others do.
-/

namespace YieldRules

/-- The game answers for a requirement and for its opposite alike, and leaves the inversion to the
evaluation. The specification describes such games: the evaluation asks for a test and negates the
answer for `Inverse` (section 4.4), so a requirement that alone would pass fails when it is inverted
(section 8). A game is handed the whole requirement, however, and may do otherwise. -/
def RequirementRules.IgnoresInversion (rules : RequirementRules) (player : PlayerId)
    (subject : Subject) (r : Requirement) : Prop :=
  rules.satisfied player subject r.inverted = rules.satisfied player subject r

theorem World.ignoresInversion (w : World) (player : PlayerId) (subject : Subject)
    (r : Requirement) : w.rules.IgnoresInversion player subject r := rfl

/-- The type that asks for any requirement where a type asks for all, and for all where it asks for
any. -/
def RequirementSetType.opposite : RequirementSetType → RequirementSetType
  | any => .all
  | all | other _ => .any

theorem RequirementSetType.combinator_opposite (type : RequirementSetType) :
    type.opposite.combinator = type.combinator.dual := by
  cases type <;> rfl

/-- The opposite type, and the opposite requirements in the same order. -/
def RequirementSet.opposite (s : RequirementSet) : RequirementSet :=
  { s with setType := s.setType.opposite, requirements := s.requirements.map .inverted }

namespace Context

variable {ctx : Context} {player : PlayerId} {subject : Subject} {n : Nat} {r : Requirement}

/-- The game is asked about tests alone, so only its answers for a test matter. -/
theorem meets_inverted
    (ignores : r.kind ≠ .setReference → ctx.rules.IgnoresInversion player subject r) :
    ctx.meets player subject n r.inverted = (ctx.meets player subject n r).map (!·) := by
  cases r.asks with
  | test name kind =>
    have kind' : r.inverted.kind = .predicate name := kind
    rw [meets_test kind, meets_test kind', ignores (by rw [kind]; simp)]
    simp [Except.map, Requirement.inverted]
  | unnamed nameless =>
    have nameless' : r.inverted.Unnamed := nameless
    rw [meets_unnamed nameless, meets_unnamed nameless']
    rfl
  | set id refers =>
    have refers' : r.inverted.RefersTo id := refers
    cases n with
    | zero =>
      rw [meets_exhausted refers, meets_exhausted refers']
      rfl
    | succ n =>
      cases hs : ctx.rules.requirementSet id with
      | none =>
        rw [meets_unregistered refers hs, meets_unregistered refers' hs]
        simp [Except.map, Requirement.inverted]
      | some t =>
        rw [meets_registered refers hs, meets_registered refers' hs]
        cases ctx.meetsSet player subject n t <;> simp [Except.map, Requirement.inverted]

/-- Inverted requirements, combined in the opposite way, have the opposite result. -/
theorem combine_inverted (c : Combinator) {rs : List Requirement}
    (ignores : ∀ q ∈ rs, q.kind ≠ .setReference → ctx.rules.IgnoresInversion player subject q) :
    c.dual.combine (ctx.meets player subject n) (rs.map Requirement.inverted) =
      (c.combine (ctx.meets player subject n) rs).map (!·) :=
  Combinator.combine_dual c Requirement.inverted fun q hq => meets_inverted (ignores q hq)

theorem meetsSet_opposite {set : RequirementSet}
    (ignores : ∀ q ∈ set.requirements, q.kind ≠ .setReference →
      ctx.rules.IgnoresInversion player subject q) :
    ctx.meetsSet player subject n set.opposite = (ctx.meetsSet player subject n set).map (!·) := by
  have type : set.opposite.setType = set.setType.opposite := rfl
  have requirements : set.opposite.requirements = set.requirements.map .inverted := rfl
  rw [meetsSet, type, requirements, RequirementSetType.combinator_opposite,
    combine_inverted _ ignores, meetsSet]

/-- A set of one requirement has the answer of the requirement. -/
theorem isEligible_single (ctx : Context) (player : PlayerId) (subject : Subject)
    (id : Option DataName) (type : RequirementSetType) (r : Requirement) :
    ctx.isEligible player subject (some ⟨id, type, [r]⟩) =
      ctx.meets player subject ctx.options.maxRequirementDepth r :=
  Combinator.combine_singleton _ _ r

/-- The sets of one test alone show what the game does with its inversion. -/
theorem ignoresInversion_of_opposite (isTest : r.kind ≠ .setReference)
    (law : ctx.isEligible player subject (some (RequirementSet.allOf [r]).opposite) =
      (ctx.isEligible player subject (some (.allOf [r]))).map (!·)) :
    ctx.rules.IgnoresInversion player subject r := by
  have opposite : (RequirementSet.allOf [r]).opposite = .anyOf [r.inverted] := rfl
  rw [opposite, RequirementSet.anyOf, RequirementSet.allOf, isEligible_single,
    isEligible_single] at law
  cases r.asks with
  | test name kind =>
    have kind' : r.inverted.kind = .predicate name := kind
    rw [meets_test kind, meets_test kind'] at law
    simpa [Except.map, Requirement.inverted, RequirementRules.IgnoresInversion] using law
  | unnamed nameless => exact False.elim (isTest nameless.1)
  | set id refers => exact False.elim (isTest refers.1)

/-- The opposite set has the opposite answer or the same fault, in every world and wherever else
the game leaves the inversion of its tests to the evaluation. A game that does not do so for some
test breaks the law on the set of this test alone. -/
theorem isEligible_opposite (player : PlayerId) (subject : Subject) :
    (∀ (ctx : Context) (set : RequirementSet),
      (∀ r ∈ set.requirements, r.kind ≠ .setReference →
        ctx.rules.IgnoresInversion player subject r) →
      ctx.isEligible player subject (some set.opposite) =
        (ctx.isEligible player subject (some set)).map (!·)) ∧
    (∀ (w : World) (options : Options) (set : RequirementSet),
      (w.context options).isEligible player subject (some set.opposite) =
        ((w.context options).isEligible player subject (some set)).map (!·)) ∧
    ∀ (ctx : Context) (r : Requirement), r.kind ≠ .setReference →
      ctx.isEligible player subject (some (RequirementSet.allOf [r]).opposite) =
        (ctx.isEligible player subject (some (.allOf [r]))).map (!·) →
      ctx.rules.IgnoresInversion player subject r := by
  refine ⟨fun ctx set ignores => meetsSet_opposite ignores, ?_, ?_⟩
  · intro w options set
    exact meetsSet_opposite fun r _ _ => w.ignoresInversion player subject r
  · intro ctx r isTest law
    exact ignoresInversion_of_opposite isTest law

end Context

namespace Circle

/-- Asks that something else than the set `CIRCLE` decides. -/
def detour : RequirementSet :=
  ⟨some "DETOUR", .other "REQUIREMENTSET_TEST_NONE", [alwaysMet, .reference "CIRCLE", alwaysMet]⟩

/-- One reference more makes a difference to both sets, or to neither. The law on a set of one test
tells that the game leaves its inversion alone. -/
theorem isEligible_opposite_circle :
    (context set 1).isEligible .first (.player .first) (some detour) = .ok true ∧
    (context set 1).isEligible .first (.player .first) (some detour.opposite) = .ok false ∧
    (context set 0).isEligible .first (.player .first) (some detour.opposite) =
      .error (.tooDeep "CIRCLE" 0) ∧
    (context set 1).rules.IgnoresInversion .first (.player .first) alwaysMet := by
  have answer : (context set 1).isEligible .first (.player .first) (some detour) = .ok true := by
    rfl
  have fault : (context set 0).isEligible .first (.player .first) (some detour) =
      .error (.tooDeep "CIRCLE" 0) := by
    rfl
  have law := (Context.isEligible_opposite .first (.player .first)).1
  refine ⟨answer, ?_, ?_, ?_⟩
  · rw [law (context set 1) detour fun r _ _ => World.ignoresInversion .empty _ _ r, answer]
    rfl
  · rw [law (context set 0) detour fun r _ _ => World.ignoresInversion .empty _ _ r, fault]
    rfl
  · exact (Context.isEligible_opposite .first (.player .first)).2.2 (context set 1) alwaysMet
      (by decide) (by rfl)

def test : Requirement :=
  .ofKind (.predicate "TEST")

/-- A game with one set, in which tests hold where they are inverted and nowhere else. -/
def contrary (s : RequirementSet) (limit : Nat) : Context :=
  { context s limit with
    rules := { (context s limit).rules with satisfied := fun _ _ r => r.inverse } }

/-- Where tests see their inversion a set and its opposite can have the same answer. -/
theorem opposite_answers_agree :
    (contrary set 1).isEligible .first (.player .first) (some (.allOf [test])) = .ok false ∧
    (contrary set 1).isEligible .first (.player .first)
      (some (RequirementSet.allOf [test]).opposite) = .ok false :=
  ⟨by rfl, by rfl⟩

end Circle

end YieldRules
