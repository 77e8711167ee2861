import YieldRules.Proofs.Combination
import YieldRules.Proofs.References

/-!
# Where faults come from

An evaluation that may follow `n` references fails only at a reference without
a name, or at a reference behind exactly `n` others. So it succeeds where names
are complete and chains are short, and a chain of first references that does
not end is always cut off at the limit.
-/

namespace YieldRules

/-- The faults that a set can give when `n` references may be followed. -/
inductive FaultOrigin (rules : RequirementRules) (limit : Nat) (s : RequirementSet) (n : Nat) :
    Fault → Prop where
  | tooDeep {ids : List DataName} {t : RequirementSet} {id : DataName}
      (leads : rules.Leads s ids t) (refers : t.RefersTo id) (length : ids.length = n) :
      FaultOrigin rules limit s n (.tooDeep id limit)
  | missing {ids : List DataName} {t : RequirementSet}
      (leads : rules.Leads s ids t) (nameless : t.HasUnnamed) (length : ids.length ≤ n) :
      FaultOrigin rules limit s n (.missingArgument Requirement.setIdArgument)

theorem FaultOrigin.follow {rules : RequirementRules} {limit n : Nat} {s t : RequirementSet}
    {id : DataName} {e : Fault} (refers : s.RefersTo id)
    (registered : rules.requirementSet id = some t) (origin : FaultOrigin rules limit t n e) :
    FaultOrigin rules limit s (n + 1) e := by
  cases origin with
  | tooDeep leads last length =>
    exact .tooDeep (.follow refers registered leads) last (congrArg (· + 1) length)
  | missing leads nameless length =>
    exact .missing (.follow refers registered leads) nameless (Nat.succ_le_succ length)

/-- Short chains leave only the references without a name to blame. -/
theorem FaultOrigin.missing_of_short {rules : RequirementRules} {limit n : Nat}
    {s : RequirementSet} {e : Fault} (origin : FaultOrigin rules limit s n e)
    (short : ¬ rules.Overruns s n) :
    e = .missingArgument Requirement.setIdArgument ∧ ¬ rules.AllNamed s := by
  cases origin with
  | tooDeep leads refers length => exact False.elim (short ⟨_, _, _, length, leads, refers⟩)
  | missing leads nameless _ => exact ⟨rfl, fun named => named _ _ leads nameless⟩

namespace Context

variable {ctx : Context} {player : PlayerId} {subject : Subject}

theorem faultOrigin_of_meetsSet {n : Nat} {set : RequirementSet} {e : Fault}
    (h : ctx.meetsSet player subject n set = .error e) :
    FaultOrigin ctx.rules ctx.options.maxRequirementDepth set n e := by
  -- Only a followed reference uses up the count; a missing name is blamed at any count.
  induction n using Nat.strongRecOn generalizing set with
  | ind n ih =>
    obtain ⟨r, hr, failed⟩ := Combinator.combine_error h
    cases outcome_of_meets failed with
    | unnamed nameless => exact .missing .here ⟨r, hr, nameless⟩ (Nat.zero_le n)
    | exhausted refers => exact .tooDeep .here ⟨r, hr, refers⟩ rfl
    | failed refers registered inner =>
      exact .follow ⟨r, hr, refers⟩ registered (ih _ (Nat.lt_succ_self _) inner)

theorem meetsSet_succeeds {n : Nat} {set : RequirementSet} (short : ¬ ctx.rules.Overruns set n)
    (named : ctx.rules.AllNamed set) : ∃ b, ctx.meetsSet player subject n set = .ok b := by
  cases h : ctx.meetsSet player subject n set with
  | ok b => exact ⟨b, rfl⟩
  | error e =>
    have blamed := (faultOrigin_of_meetsSet h).missing_of_short short
    exact False.elim (blamed.2 named)

end Context

/-! ## Runaway chains -/

/-- The name that the first requirement of a set refers to. -/
def RequirementSet.firstTarget? (s : RequirementSet) : Option DataName :=
  s.requirements.head?.bind fun r =>
    match r.kind with
    | .setReference => r.target?
    | .predicate _ => none

namespace RequirementRules

/-- The set behind `n` first references. -/
def behindFirst (rules : RequirementRules) : Nat → RequirementSet → Option RequirementSet
  | 0, s => some s
  | n + 1, s => (s.firstTarget?.bind rules.requirementSet).bind (rules.behindFirst n)

/-- Wherever first references lead, the next one names a registered set. -/
def Runaway (rules : RequirementRules) (s : RequirementSet) : Prop :=
  ∀ n t, rules.behindFirst n s = some t →
    ∃ id u, t.firstTarget? = some id ∧ rules.requirementSet id = some u

theorem behindFirst_follow {rules : RequirementRules} {s t : RequirementSet} {id : DataName}
    (first : s.firstTarget? = some id) (registered : rules.requirementSet id = some t) (n : Nat) :
    rules.behindFirst (n + 1) s = rules.behindFirst n t := by
  simp only [behindFirst, first, registered, Option.bind_some]

theorem Runaway.follow {rules : RequirementRules} {s t : RequirementSet} {id : DataName}
    (runaway : rules.Runaway s) (first : s.firstTarget? = some id)
    (registered : rules.requirementSet id = some t) : rules.Runaway t :=
  fun n u behind => runaway (n + 1) u ((behindFirst_follow first registered n).trans behind)

/-- Sets whose first references lead to such sets again lead nowhere else. -/
theorem Runaway.of_invariant {rules : RequirementRules} {s : RequirementSet}
    {P : RequirementSet → Prop} (start : P s)
    (invariant : ∀ t, P t → ∃ id u, t.firstTarget? = some id ∧
      rules.requirementSet id = some u ∧ P u) : rules.Runaway s := by
  intro n
  induction n generalizing s with
  | zero =>
    rintro t ⟨⟩
    obtain ⟨id, u, first, registered, _⟩ := invariant s start
    exact ⟨id, u, first, registered⟩
  | succ n ih =>
    obtain ⟨id, u, first, registered, next⟩ := invariant s start
    rw [behindFirst_follow first registered]
    exact ih next

end RequirementRules

theorem RequirementSet.first_refersTo {s : RequirementSet} {id : DataName}
    (first : s.firstTarget? = some id) :
    ∃ r rest, s.requirements = r :: rest ∧ r.RefersTo id := by
  obtain ⟨r, head, target⟩ := Option.bind_eq_some_iff.mp first
  obtain ⟨rest, hr⟩ := List.head?_eq_some_iff.mp head
  refine ⟨r, rest, hr, ?_⟩
  cases kind : r.kind with
  | predicate name => simp only [kind, reduceCtorEq] at target
  | setReference => exact ⟨kind, by simpa only [kind] using target⟩

namespace Context

variable {ctx : Context} {player : PlayerId} {subject : Subject}

theorem meetsSet_first_error {n : Nat} {set : RequirementSet} {r : Requirement}
    {rest : List Requirement} {e : Fault} (hr : set.requirements = r :: rest)
    (failed : ctx.meets player subject n r = .error e) :
    ctx.meetsSet player subject n set = .error e := by
  rw [meetsSet, hr, Combinator.combine_cons_stops (by rw [failed]; simp), failed]

/-- Neither inversion nor the way of combining keeps a runaway chain from the limit. -/
theorem meetsSet_runaway {n : Nat} {set : RequirementSet} (runaway : ctx.rules.Runaway set) :
    ∃ t id, ctx.rules.behindFirst n set = some t ∧ t.firstTarget? = some id ∧
      ctx.meetsSet player subject n set =
        .error (.tooDeep id ctx.options.maxRequirementDepth) := by
  induction n generalizing set with
  | zero =>
    obtain ⟨id, u, first, _⟩ := runaway 0 set rfl
    obtain ⟨r, rest, hr, refers⟩ := RequirementSet.first_refersTo first
    exact ⟨set, id, rfl, first, meetsSet_first_error hr (meets_exhausted refers)⟩
  | succ n ih =>
    obtain ⟨id, u, first, registered⟩ := runaway 0 set rfl
    obtain ⟨r, rest, hr, refers⟩ := RequirementSet.first_refersTo first
    obtain ⟨t, last, behind, target, failed⟩ := ih (runaway.follow first registered)
    refine ⟨t, last, (RequirementRules.behindFirst_follow first registered n).trans behind,
      target, meetsSet_first_error hr ?_⟩
    rw [meets_registered refers registered, failed]
    rfl

/-- An evaluation fails for two reasons only, each with a reference to blame, and a chain of first
references that never ends is reported at the name on which the limit is exceeded. -/
theorem isEligible_faults_exact (ctx : Context) (player : PlayerId) (subject : Subject)
    (set : RequirementSet) :
    (∀ e, ctx.isEligible player subject (some set) = .error e →
      (∃ ids t id, ctx.rules.Leads set ids t ∧ ids.length = ctx.options.maxRequirementDepth ∧
        t.RefersTo id ∧ e = .tooDeep id ctx.options.maxRequirementDepth) ∨
      (∃ ids t, ctx.rules.Leads set ids t ∧ ids.length ≤ ctx.options.maxRequirementDepth ∧
        t.HasUnnamed ∧ e = .missingArgument "RequirementSetId")) ∧
    (ctx.rules.Runaway set →
      ∃ t id, ctx.rules.behindFirst ctx.options.maxRequirementDepth set = some t ∧
        t.firstTarget? = some id ∧
        ctx.isEligible player subject (some set) =
          .error (.tooDeep id ctx.options.maxRequirementDepth)) := by
  constructor
  · intro e failed
    cases faultOrigin_of_meetsSet failed with
    | tooDeep leads refers length => exact Or.inl ⟨_, _, _, leads, length, refers, rfl⟩
    | missing leads nameless length => exact Or.inr ⟨_, _, leads, length, nameless, rfl⟩
  · intro runaway
    exact meetsSet_runaway runaway

end Context

namespace Circle

def runaway : RequirementSet :=
  .anyOf [(Requirement.reference "CIRCLE").inverted, alwaysMet]

theorem isEligible_faults_exact_circle :
    (context runaway 8).rules.Runaway runaway ∧
    ∃ t id, (context runaway 8).rules.behindFirst 8 runaway = some t ∧
      t.firstTarget? = some id ∧
      (context runaway 8).isEligible .first (.player .first) (some runaway) =
        .error (.tooDeep id 8) := by
  have endless : (context runaway 8).rules.Runaway runaway :=
    .of_invariant rfl fun t same => ⟨"CIRCLE", runaway, by rw [← same]; rfl, rfl, rfl⟩
  exact ⟨endless, (Context.isEligible_faults_exact (context runaway 8) .first
    (.player .first) runaway).2 endless⟩

end Circle

end YieldRules
