import YieldRules.Proofs.FaultOrigin

/-!
# Order and repetition of requirements

Sets are alike when they combine the same requirements in the same way, in
whatever order and however often each is listed. Answers for alike sets never
differ, even where circles of references leave the value of a set open, and
under limits that suffice there is an answer for both.
-/

namespace YieldRules

namespace RequirementSet

structure Alike (s t : RequirementSet) : Prop where
  sameTest : s.setType = .any ↔ t.setType = .any
  sameRequirements : ∀ r, r ∈ s.requirements ↔ r ∈ t.requirements

variable {s t : RequirementSet}

theorem Alike.of_subset (sameTest : s.setType = .any ↔ t.setType = .any)
    (inside : s.requirements ⊆ t.requirements) (outside : t.requirements ⊆ s.requirements) :
    s.Alike t :=
  ⟨sameTest, fun _ => ⟨@inside _, @outside _⟩⟩

theorem Alike.symm (alike : s.Alike t) : t.Alike s :=
  ⟨alike.sameTest.symm, fun r => (alike.sameRequirements r).symm⟩

theorem Alike.sameCombinator (alike : s.Alike t) :
    s.setType.combinator = t.setType.combinator :=
  RequirementSetType.combinator_congr alike.sameTest

theorem Alike.refersTo (alike : s.Alike t) {id : DataName} (refers : s.RefersTo id) :
    t.RefersTo id := by
  obtain ⟨r, hr, named⟩ := refers
  exact ⟨r, (alike.sameRequirements r).mp hr, named⟩

theorem Alike.hasUnnamed (alike : s.Alike t) (unnamed : s.HasUnnamed) : t.HasUnnamed := by
  obtain ⟨r, hr, nameless⟩ := unnamed
  exact ⟨r, (alike.sameRequirements r).mp hr, nameless⟩

end RequirementSet

namespace RequirementRules

/-- The same tests, and alike sets under the same names. -/
structure Alike (rules rules' : RequirementRules) : Prop where
  sameTests : rules'.satisfied = rules.satisfied
  alikeSets : ∀ id,
    Option.Rel RequirementSet.Alike (rules.requirementSet id) (rules'.requirementSet id)

variable {rules rules' : RequirementRules} {s t u : RequirementSet} {id : DataName}

theorem Alike.unregistered (alike : rules.Alike rules')
    (absent : rules.requirementSet id = none) : rules'.requirementSet id = none := by
  have rel := alike.alikeSets id
  rw [absent] at rel
  cases h : rules'.requirementSet id with
  | none => rfl
  | some t => rw [h] at rel; cases rel

theorem Alike.registered (alike : rules.Alike rules')
    (registered : rules.requirementSet id = some s) :
    ∃ t, rules'.requirementSet id = some t ∧ s.Alike t := by
  have rel := alike.alikeSets id
  rw [registered] at rel
  cases h : rules'.requirementSet id with
  | none => rw [h] at rel; cases rel
  | some t =>
    rw [h] at rel
    cases rel with
    | some alike => exact ⟨t, rfl, alike⟩

theorem Alike.symm (alike : rules.Alike rules') : rules'.Alike rules := by
  refine ⟨alike.sameTests.symm, fun id => ?_⟩
  cases h : rules.requirementSet id with
  | none => rw [alike.unregistered h]; exact .none
  | some s =>
    obtain ⟨t, h', sets⟩ := alike.registered h
    rw [h']
    exact .some sets.symm

/-- Every path of references is also there under rules that are alike. -/
theorem Alike.leads (alike : rules.Alike rules') {ids : List DataName}
    (leads : rules.Leads s ids u) (sets : s.Alike t) :
    ∃ v, rules'.Leads t ids v ∧ u.Alike v := by
  induction leads generalizing t with
  | here => exact ⟨t, .here, sets⟩
  | follow refers registered _ ih =>
    obtain ⟨t', registered', sets'⟩ := alike.registered registered
    obtain ⟨v, leads, ends⟩ := ih sets'
    exact ⟨v, .follow (sets.refersTo refers) registered' leads, ends⟩

theorem Alike.overruns (alike : rules.Alike rules') (sets : s.Alike t) {n : Nat}
    (overruns : rules.Overruns s n) : rules'.Overruns t n := by
  obtain ⟨ids, u, id, length, leads, refers⟩ := overruns
  obtain ⟨v, leads', ends⟩ := alike.leads leads sets
  exact ⟨ids, v, id, length, leads', ends.refersTo refers⟩

theorem Alike.allNamed (alike : rules.Alike rules') (sets : s.Alike t)
    (named : rules.AllNamed s) : rules'.AllNamed t := by
  intro ids v leads unnamed
  obtain ⟨u, leads', ends⟩ := alike.symm.leads leads sets.symm
  exact named ids u leads' (ends.hasUnnamed unnamed)

end RequirementRules

namespace Context

variable {ctx ctx' : Context} {player : PlayerId} {subject : Subject}

/-- The tree of one run need not resemble that of the other, so the induction is on the
references left to the first run alone, and the second run is inverted as needed. -/
theorem meetsSet_agree (rules : ctx.rules.Alike ctx'.rules) {n m : Nat} {s t : RequirementSet}
    {b b' : Bool} (alike : s.Alike t) (h : ctx.meetsSet player subject n s = .ok b)
    (h' : ctx'.meetsSet player subject m t = .ok b') : b = b' := by
  induction n using Nat.strongRecOn generalizing m s t b b' with
  | ind n ih =>
    rw [meetsSet] at h h'
    rw [← alike.sameCombinator] at h'
    refine Combinator.combine_agree alike.sameRequirements (fun r _ v v' hv hv' => ?_) h h'
    cases outcome_of_meets hv with
    | test kind =>
      rw [meets_test kind, rules.sameTests] at hv'
      exact Except.ok.inj hv'
    | unregistered refers absent =>
      cases m with
      | zero => rw [meets_exhausted refers] at hv'; cases hv'
      | succ m =>
        rw [meets_unregistered refers (rules.unregistered absent)] at hv'
        exact Except.ok.inj hv'
    | answered refers registered inner =>
      obtain ⟨u, registered', sets⟩ := rules.registered registered
      cases m with
      | zero => rw [meets_exhausted refers] at hv'; cases hv'
      | succ m =>
        rw [meets_registered refers registered'] at hv'
        cases inner' : ctx'.meetsSet player subject m u with
        | error e => rw [inner'] at hv'; cases hv'
        | ok w =>
          rw [inner', ← ih _ (Nat.lt_succ_self _) sets inner inner'] at hv'
          exact Except.ok.inj hv'

/-- Order and repetition cannot change an answer, and where limits suffice and names are complete
there is an answer in either order. -/
theorem isEligible_of_alike (ctx ctx' : Context) (rules : ctx.rules.Alike ctx'.rules)
    (set set' : RequirementSet) (alike : set.Alike set') (player : PlayerId)
    (subject : Subject) :
    (∀ b b', ctx.isEligible player subject (some set) = .ok b →
      ctx'.isEligible player subject (some set') = .ok b' → b = b') ∧
    (¬ ctx.rules.Overruns set ctx.options.maxRequirementDepth →
      ¬ ctx.rules.Overruns set ctx'.options.maxRequirementDepth →
      ctx.rules.AllNamed set →
      (∃ b, ctx.isEligible player subject (some set) = .ok b) ∧
      (∃ b, ctx'.isEligible player subject (some set') = .ok b)) := by
  constructor
  · intro b b' h h'
    exact meetsSet_agree rules alike h h'
  · intro short short' named
    refine ⟨meetsSet_succeeds short named, meetsSet_succeeds ?_ (rules.allNamed alike named)⟩
    exact fun overruns => short' (rules.symm.overruns alike.symm overruns)

end Context

namespace Circle

theorem rules_alike {s t : RequirementSet} (sets : s.Alike t) (n m : Nat) :
    (context s n).rules.Alike (context t m).rules := by
  refine ⟨rfl, fun id => ?_⟩
  by_cases h : id = "CIRCLE"
  · simpa only [context, if_pos h] using .some sets
  · simpa only [context, if_neg h] using .none

def repeated : RequirementSet :=
  ⟨some "CIRCLE", .any, [alwaysMet, .reference "CIRCLE", alwaysMet]⟩

theorem set_alike : set.Alike repeated := by
  refine .of_subset (by decide) ?_ ?_ <;> simp [set, repeated, RequirementSet.anyOf]

def swappedEntry : RequirementSet :=
  ⟨none, .other "REQUIREMENTSET_TEST_NONE", [alwaysMet, .reference "CIRCLE"]⟩

theorem entry_alike : entry.Alike swappedEntry := by
  refine .of_subset (by decide) ?_ ?_ <;> simp [entry, swappedEntry, RequirementSet.allOf]

def wideOutlet : RequirementSet :=
  ⟨none, .other "REQUIREMENTSET_TEST_NONE",
    [.reference "NOWHERE", alwaysMet, .reference "NOWHERE"]⟩

theorem outlet_alike : outlet.Alike wideOutlet := by
  refine .of_subset (by decide) ?_ ?_ <;> simp [outlet, wideOutlet, RequirementSet.allOf]

/-- The same answer within the circle, and an answer to both sets where references end. -/
theorem isEligible_of_alike_circle :
    (context set 1).isEligible .first (.player .first) (some entry) = .ok true ∧
    (context repeated 4).isEligible .first (.player .first) (some swappedEntry) = .ok true ∧
    (∀ b b', (context set 1).isEligible .first (.player .first) (some entry) = .ok b →
      (context repeated 4).isEligible .first (.player .first) (some swappedEntry) = .ok b' →
      b = b') ∧
    ¬ (context outlet 2).rules.Overruns entry 2 ∧ ¬ (context outlet 2).rules.Overruns entry 3 ∧
    (context outlet 2).rules.AllNamed entry ∧
    (∃ b, (context outlet 2).isEligible .first (.player .first) (some entry) = .ok b) ∧
    ∃ b, (context wideOutlet 3).isEligible .first (.player .first) (some swappedEntry) = .ok b := by
  have agree := (Context.isEligible_of_alike (context set 1) (context repeated 4)
    (rules_alike set_alike 1 4) entry swappedEntry entry_alike .first (.player .first)).1
  have succeed := (Context.isEligible_of_alike (context outlet 2) (context wideOutlet 3)
    (rules_alike outlet_alike 2 3) entry swappedEntry entry_alike .first (.player .first)).2
    (entry_short 2 0) (entry_short 2 1) (entry_named 2)
  exact ⟨by rfl, by rfl, agree, entry_short 2 0, entry_short 2 1, entry_named 2, succeed⟩

end Circle

end YieldRules
