import YieldRules.Proofs.FaultOrigin

/-!
# What a requirement set means

A valuation gives a truth value to every set name. It is consistent for a set
when each name that the set reaches has the value of its own definition.
Circles of references may admit many such valuations or none. An answer is the
value of the set under all of them, and it is always found when chains of
references are no longer than the limit.
-/

namespace YieldRules

/-- The value of a set of requirements, each of which holds or not. -/
def RequirementSet.verdict (s : RequirementSet) (holds : Requirement → Bool) : Bool :=
  match s.setType with
  | .any => s.requirements.any holds
  | .all | .other _ => s.requirements.all holds

/-- The truth of a requirement before it is inverted, from the tests of the game, a choice for
the references without a name, and a truth value for every set name. -/
def Requirement.truth (test unnamed : Requirement → Bool) (V : DataName → Bool)
    (r : Requirement) : Bool :=
  match r.kind with
  | .predicate _ => test r
  | .setReference =>
    match r.target? with
    | some id => V id
    | none => unnamed r

def RequirementSet.value (test unnamed : Requirement → Bool) (V : DataName → Bool)
    (s : RequirementSet) : Bool :=
  s.verdict fun r => r.truth test unnamed V != r.inverse

/-- Every name that the set reaches has the truth value that its definition gives it. -/
structure Consistent (rules : RequirementRules) (test unnamed : Requirement → Bool)
    (s : RequirementSet) (V : DataName → Bool) : Prop where
  unregistered : ∀ id, rules.Reaches s id → rules.requirementSet id = none → V id = true
  registered : ∀ id t, rules.Reaches s id → rules.requirementSet id = some t →
    V id = t.value test unnamed V

variable {rules : RequirementRules} {test unnamed : Requirement → Bool} {V W : DataName → Bool}
variable {s t : RequirementSet} {r : Requirement} {id : DataName}

theorem Requirement.truth_test {name : String} (kind : r.kind = .predicate name) :
    r.truth test unnamed V = test r := by
  simp only [truth, kind]

theorem Requirement.truth_refersTo (refers : r.RefersTo id) :
    r.truth test unnamed V = V id := by
  simp only [truth, refers.1, refers.2]

theorem Consistent.follow (consistent : Consistent rules test unnamed s V)
    (refers : s.RefersTo id) (registered : rules.requirementSet id = some t) :
    Consistent rules test unnamed t V :=
  ⟨fun name reaches => consistent.unregistered name (reaches.follow refers registered),
    fun name u reaches => consistent.registered name u (reaches.follow refers registered)⟩

namespace RequirementSet

theorem verdict_eq (s : RequirementSet) (holds : Requirement → Bool) :
    s.verdict holds =
      match s.setType.combinator with
      | .all => s.requirements.all holds
      | .any => s.requirements.any holds := by
  cases hs : s.setType <;> simp only [verdict, hs, RequirementSetType.combinator]

theorem verdict_neutral {holds : Requirement → Bool}
    (h : ∀ r ∈ s.requirements, holds r = s.setType.combinator.neutral) :
    s.verdict holds = s.setType.combinator.neutral := by
  rw [verdict_eq]
  cases hc : s.setType.combinator with
  | all => simpa [hc, Combinator.neutral] using h
  | any => simpa [hc, Combinator.neutral] using h

theorem verdict_decided {holds : Requirement → Bool} (hr : r ∈ s.requirements)
    (decides : holds r ≠ s.setType.combinator.neutral) : s.verdict holds = holds r := by
  rw [verdict_eq]
  cases hc : s.setType.combinator with
  | all =>
    have fails : holds r = false := by simpa [hc, Combinator.neutral] using decides
    rw [fails]
    exact List.all_eq_false.mpr ⟨r, hr, by simp [fails]⟩
  | any =>
    have passes : holds r = true := by simpa [hc, Combinator.neutral] using decides
    rw [passes]
    exact List.any_eq_true.mpr ⟨r, hr, passes⟩

theorem verdict_congr {p q : Requirement → Bool} (same : ∀ r ∈ s.requirements, p r = q r) :
    s.verdict p = s.verdict q := by
  by_cases h : ∀ r ∈ s.requirements, p r = s.setType.combinator.neutral
  · rw [verdict_neutral h, verdict_neutral fun r hr => (same r hr).symm.trans (h r hr)]
  · obtain ⟨r, hr⟩ := Classical.not_forall.mp h
    obtain ⟨hr, decides⟩ := Classical.not_imp.mp hr
    rw [verdict_decided hr decides, verdict_decided hr (same r hr ▸ decides), same r hr]

/-- Results that agree with the truth of their requirements combine to the verdict, although
requirements behind the deciding one have no result. -/
theorem verdict_of_combine {holds : Requirement → Bool} {result : Requirement → Except Fault Bool}
    {b : Bool} (agrees : ∀ r ∈ s.requirements, ∀ v, result r = .ok v → holds r = v)
    (h : s.setType.combinator.combine result s.requirements = .ok b) : s.verdict holds = b := by
  by_cases hb : b = s.setType.combinator.neutral
  · subst b
    exact verdict_neutral fun r hr => agrees r hr _ (Combinator.combine_neutral h r hr)
  · obtain ⟨r, hr, decided⟩ := Combinator.combine_decided h hb
    have same := agrees r hr b decided
    exact (verdict_decided hr (same ▸ hb)).trans same

end RequirementSet

/-- An answer is the value of the set under every consistent valuation. -/
theorem Context.value_of_meetsSet {ctx : Context} {player : PlayerId} {subject : Subject} {n : Nat}
    {set : RequirementSet} {b : Bool}
    (consistent : Consistent ctx.rules (ctx.rules.satisfied player subject) unnamed set V)
    (h : ctx.meetsSet player subject n set = .ok b) :
    set.value (ctx.rules.satisfied player subject) unnamed V = b := by
  induction n using Nat.strongRecOn generalizing set b with
  | ind n ih =>
    refine RequirementSet.verdict_of_combine (fun r hr v answered => ?_) h
    cases outcome_of_meets answered with
    | test kind => rw [Requirement.truth_test kind]
    | unregistered refers absent =>
      rw [Requirement.truth_refersTo refers,
        consistent.unregistered _ (.direct ⟨r, hr, refers⟩) absent]
    | answered refers registered inner =>
      have value := ih _ (Nat.lt_succ_self _)
        (consistent.follow ⟨r, hr, refers⟩ registered) inner
      rw [Requirement.truth_refersTo refers,
        consistent.registered _ _ (.direct ⟨r, hr, refers⟩) registered, value]

/-! ## Finding a consistent valuation -/

/-- Read every definition with the truth values found so far, a number of times over. -/
def settle (rules : RequirementRules) (test unnamed : Requirement → Bool) :
    Nat → DataName → Bool
  | 0 => fun _ => true
  | n + 1 => fun id =>
    match rules.requirementSet id with
    | none => true
    | some s => s.value test unnamed (settle rules test unnamed n)

theorem settle_unregistered (absent : rules.requirementSet id = none) (n : Nat) :
    settle rules test unnamed n id = true := by
  cases n with
  | zero => rfl
  | succ n => simp only [settle, absent]

theorem settle_registered (registered : rules.requirementSet id = some s) (n : Nat) :
    settle rules test unnamed (n + 1) id =
      s.value test unnamed (settle rules test unnamed n) := by
  simp only [settle, registered]

/-- Only the names in a set matter for its value. -/
theorem RequirementSet.value_congr (same : ∀ id, s.RefersTo id → V id = W id) :
    s.value test unnamed V = s.value test unnamed W := by
  refine verdict_congr fun r hr => ?_
  cases r.asks with
  | test name kind => rw [Requirement.truth_test kind, Requirement.truth_test kind]
  | unnamed nameless => simp only [Requirement.truth, nameless.1, nameless.2]
  | set id refers =>
    rw [Requirement.truth_refersTo refers, Requirement.truth_refersTo refers,
      same id ⟨r, hr, refers⟩]

/-- Names in a set with short chains have settled once the chains have been gone through. -/
theorem settle_stable {n m : Nat} (short : ¬ rules.Overruns s n) (enough : n ≤ m)
    (refers : s.RefersTo id) :
    settle rules test unnamed (m + 1) id = settle rules test unnamed m id := by
  -- A set with no chain beyond `n` refers only to sets with none beyond `n - 1`.
  induction n generalizing m s id with
  | zero => exact False.elim (short (RequirementRules.overruns_zero_iff.mpr ⟨id, refers⟩))
  | succ n ih =>
    cases m with
    | zero => omega
    | succ m =>
      cases ht : rules.requirementSet id with
      | none => rw [settle_unregistered ht, settle_unregistered ht]
      | some t =>
        rw [settle_registered ht, settle_registered ht]
        refine RequirementSet.value_congr fun name later => ?_
        exact ih (fun overruns => short (overruns.follow refers ht)) (by omega) later

/-- Behind some references chains are no longer than in front of them. -/
theorem RequirementRules.Leads.short {ids : List DataName} (leads : rules.Leads s ids t) {n : Nat}
    (short : ¬ rules.Overruns s n) : ∃ m, m ≤ n ∧ ¬ rules.Overruns t m := by
  induction leads generalizing n with
  | here => exact ⟨n, Nat.le_refl n, short⟩
  | follow refers registered later ih =>
    cases n with
    | zero => exact False.elim (short (overruns_zero_iff.mpr ⟨_, refers⟩))
    | succ n =>
      obtain ⟨m, hm, short⟩ := ih fun overruns => short (overruns.follow refers registered)
      exact ⟨m, by omega, short⟩

theorem exists_consistent {n : Nat} (short : ¬ rules.Overruns s n)
    (test unnamed : Requirement → Bool) : ∃ V, Consistent rules test unnamed s V := by
  refine ⟨settle rules test unnamed n, fun id _ absent => settle_unregistered absent n, ?_⟩
  rintro id t ⟨ids, u, leads, refers⟩ registered
  obtain ⟨m, hm, short⟩ := leads.short short
  rw [← settle_registered registered, settle_stable short hm refers]

/-- An answer is the value that every consistent valuation gives to the set, and circles of
references cannot change it. When chains of references are no longer than the limit, a consistent
valuation exists, and an answer is missing only where a reference has no name. -/
theorem isEligible_is_consistent_value (ctx : Context) (player : PlayerId) (subject : Subject)
    (set : RequirementSet) :
    (∀ b, ctx.isEligible player subject (some set) = .ok b →
      ∀ unnamed V, Consistent ctx.rules (ctx.rules.satisfied player subject) unnamed set V →
        set.value (ctx.rules.satisfied player subject) unnamed V = b) ∧
    (¬ ctx.rules.Overruns set ctx.options.maxRequirementDepth →
      (∀ unnamed, ∃ V, Consistent ctx.rules (ctx.rules.satisfied player subject) unnamed set V) ∧
      (∀ e, ctx.isEligible player subject (some set) = .error e →
        e = .missingArgument "RequirementSetId") ∧
      (ctx.rules.AllNamed set → ∃ b, ctx.isEligible player subject (some set) = .ok b)) := by
  constructor
  · intro b answered unnamed V consistent
    exact Context.value_of_meetsSet consistent answered
  · intro short
    refine ⟨exists_consistent short _, fun e failed => ?_, Context.meetsSet_succeeds short⟩
    exact ((Context.faultOrigin_of_meetsSet failed).missing_of_short short).1

namespace Circle

theorem consistent_true (s : RequirementSet) (unnamed : Requirement → Bool) :
    Consistent (context set 0).rules
      ((context set 0).rules.satisfied .first (.player .first)) unnamed s fun _ => true := by
  refine ⟨fun _ _ _ => rfl, fun id t _ registered => ?_⟩
  rw [eq_of_registered registered]
  rfl

/-- An answer that is found within the circle, and a chain of references that ends at the limit. -/
theorem isEligible_is_consistent_value_circle :
    (context set 0).isEligible .first (.player .first) (some set) = .ok true ∧
    set.value ((context set 0).rules.satisfied .first (.player .first)) (fun _ => false)
      (fun _ => true) = true ∧
    ¬ (context outlet 2).rules.Overruns entry 2 ∧
    (context outlet 2).rules.AllNamed entry ∧
    (∀ unnamed, ∃ V, Consistent (context outlet 2).rules
      ((context outlet 2).rules.satisfied .first (.player .first)) unnamed entry V) ∧
    ∃ b, (context outlet 2).isEligible .first (.player .first) (some entry) = .ok b := by
  have answered : (context set 0).isEligible .first (.player .first) (some set) = .ok true := by
    rfl
  have value := (isEligible_is_consistent_value (context set 0) .first (.player .first)
    set).1 true answered _ _ (consistent_true set fun _ => false)
  obtain ⟨consistent, _, succeeds⟩ := (isEligible_is_consistent_value (context outlet 2) .first
    (.player .first) entry).2 (entry_short 2 0)
  exact ⟨answered, value, entry_short 2 0, entry_named 2, consistent, succeeds (entry_named 2)⟩

end Circle

end YieldRules
