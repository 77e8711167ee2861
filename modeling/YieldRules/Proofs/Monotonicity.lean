import YieldRules.Proofs.Filtering

/-!
# Sets without inversion

Where neither a set nor any set that it leads to inverts a requirement, an
answer can only grow with the tests of the game: tests that hold whenever others
do never turn an eligible subject down, although the two evaluations may stop at
different requirements and go through different sets, even in circles.
-/

namespace YieldRules

/-- No requirement of the set, or of a set that it leads to, is inverted. -/
def RequirementRules.Plain (rules : RequirementRules) (s : RequirementSet) : Prop :=
  ∀ ids t, rules.Leads s ids t → ∀ r ∈ t.requirements, r.inverse = false

namespace RequirementRules

variable {rules : RequirementRules} {s t : RequirementSet} {id : DataName} {r : Requirement}

theorem Plain.upright (plain : rules.Plain s) (hr : r ∈ s.requirements) : r.inverse = false :=
  plain [] s .here r hr

theorem Plain.follow (plain : rules.Plain s) (refers : s.RefersTo id)
    (registered : rules.requirementSet id = some t) : rules.Plain t :=
  fun ids u leads => plain (id :: ids) u (.follow refers registered leads)

/-- Where no registered set inverts a requirement it is enough to look at the set itself. -/
theorem plain_of_registered
    (sets : ∀ id t, rules.requirementSet id = some t → ∀ r ∈ t.requirements, r.inverse = false)
    (own : ∀ r ∈ s.requirements, r.inverse = false) : rules.Plain s :=
  fun _ _ leads => leads.of_registered sets own

end RequirementRules

namespace Context

/-- The context with other tests and another limit. -/
def judging (ctx : Context) (test : PlayerId → Subject → Requirement → Bool) (limit : Nat) :
    Context :=
  { ctx with rules := { ctx.rules with satisfied := test }, options := ⟨limit⟩ }

variable {ctx : Context} {player : PlayerId} {subject : Subject}
variable {test : PlayerId → Subject → Requirement → Bool} {limit : Nat}

theorem candidates_judging (parent : Option Subject) (collection : Collection) :
    (ctx.judging test limit).candidates player parent collection =
      ctx.candidates player parent collection := by
  cases collection <;> rfl

/-- The second run may be cut off elsewhere, so the induction is on the references left to the
first, and the second is only known to have come to an answer. -/
theorem meetsSet_mono
    (implies : ∀ r, ctx.rules.satisfied player subject r = true → test player subject r = true)
    {n m : Nat} {set : RequirementSet} {b : Bool} (plain : ctx.rules.Plain set)
    (h : ctx.meetsSet player subject n set = .ok true)
    (h' : (ctx.judging test limit).meetsSet player subject m set = .ok b) : b = true := by
  induction n using Nat.strongRecOn generalizing m set b with
  | ind n ih =>
    refine Combinator.combine_mono (fun r hr v v' hv hv' holds => ?_) h h'
    have upright := plain.upright hr
    cases outcome_of_meets hv with
    | test kind =>
      rw [meets_test kind, upright, Bool.bne_false] at hv'
      rw [upright, Bool.bne_false] at holds
      exact Except.ok.inj hv' ▸ implies r holds
    | unregistered refers absent =>
      cases m with
      | zero => rw [meets_exhausted refers] at hv'; cases hv'
      | succ m =>
        have absent' : (ctx.judging test limit).rules.requirementSet _ = none := absent
        rw [meets_unregistered refers absent', upright] at hv'
        exact (Except.ok.inj hv').symm
    | answered refers registered inner =>
      cases m with
      | zero => rw [meets_exhausted refers] at hv'; cases hv'
      | succ m =>
        have registered' : (ctx.judging test limit).rules.requirementSet _ = some _ := registered
        rw [meets_registered refers registered', upright] at hv'
        rw [upright, Bool.bne_false] at holds
        cases inner' : (ctx.judging test limit).meetsSet player subject m _ with
        | error e => rw [inner'] at hv'; cases hv'
        | ok w =>
          subst holds
          have held := ih _ (Nat.lt_succ_self _) (plain.follow ⟨r, hr, refers⟩ registered)
            inner inner'
          rw [inner', held] at hv'
          exact (Except.ok.inj hv').symm

theorem subjects_mono {m : Modifier} {parent : Option Subject} {few many : List Subject}
    (plain : ∀ set, m.subjectRequirements = some set → ctx.rules.Plain set)
    (implies : ∀ s r, ctx.rules.satisfied player s r = true → test player s r = true)
    (h : ctx.subjects player m parent = .ok few)
    (h' : (ctx.judging test limit).subjects player m parent = .ok many) : few.Sublist many := by
  rw [subjects, candidates_judging] at h'
  refine filterChecked_sublist (fun s _ b held answered => ?_) h h'
  cases required : m.subjectRequirements with
  | none =>
    rw [required] at answered
    exact (Except.ok.inj answered).symm
  | some set =>
    rw [required] at held answered
    exact meetsSet_mono (implies s) (plain set required) held answered

/-- Without inversion, tests that hold more often turn down no subject that was eligible before
and keep every subject of a modifier, under any limits. -/
theorem outcome_of_weaker_tests (ctx : Context) (player : PlayerId)
    (test : PlayerId → Subject → Requirement → Bool) (limit : Nat) :
    (∀ subject set b, ctx.rules.Plain set →
      (∀ r, ctx.rules.satisfied player subject r = true → test player subject r = true) →
      ctx.isEligible player subject (some set) = .ok true →
      (ctx.judging test limit).isEligible player subject (some set) = .ok b → b = true) ∧
    (∀ (m : Modifier) parent few many,
      (∀ set, m.subjectRequirements = some set → ctx.rules.Plain set) →
      (∀ subject r, ctx.rules.satisfied player subject r = true →
        test player subject r = true) →
      ctx.subjects player m parent = .ok few →
      (ctx.judging test limit).subjects player m parent = .ok many → few.Sublist many) := by
  constructor
  · intro subject set b plain implies h h'
    exact meetsSet_mono implies plain h h'
  · intro m parent few many plain implies h h'
    exact subjects_mono plain implies h h'

end Context

namespace Circle

/-- A game in which the tests of some names hold and no others do. -/
def passes (names : List String) (_ : PlayerId) (_ : Subject) (r : Requirement) : Bool :=
  names.any fun name => r.kind = .predicate name

/-- Asks for one of two tests, or for itself. -/
def choice : RequirementSet :=
  .anyOf [.ofKind (.predicate "HARD"), .ofKind (.predicate "EASY"), .reference "CIRCLE"]

def invitation : RequirementSet :=
  .allOf [.reference "CIRCLE", .ofKind (.predicate "EASY")]

def strict : Context :=
  (context choice 1).judging (passes ["EASY"]) 1

theorem invitation_plain : strict.rules.Plain invitation := by
  refine RequirementRules.plain_of_registered (fun id t registered => ?_) (by decide)
  have found : (context choice 1).rules.requirementSet id = some t := registered
  rw [eq_of_registered found]
  decide

theorem lakes_plain (collection : Collection) :
    ∀ set, (Harbour.onLakes collection).subjectRequirements = some set →
      (Harbour.world.context .default).rules.Plain set := by
  rintro set ⟨⟩
  refine RequirementRules.plain_of_registered (fun id t registered => ?_) (by decide)
  cases registered

/-- The easy test decides in the strict game, and the hard one in the other. In the harbour all
plots are kept where every test holds, and the lakes are among them. -/
theorem outcome_of_weaker_tests_circle :
    strict.isEligible .first (.player .first) (some invitation) = .ok true ∧
    (∀ b, (strict.judging (passes ["HARD", "EASY"]) 6).isEligible .first (.player .first)
      (some invitation) = .ok b → b = true) ∧
    (List.replicate 4 (.plot Harbour.city (Harbour.world.map.indexOf Harbour.pier))).Sublist
      ((Harbour.world.context .default).candidates .first none .playerPlots) := by
  have answer : strict.isEligible .first (.player .first) (some invitation) = .ok true := by rfl
  refine ⟨answer, fun b answered => ?_, ?_⟩
  · refine (Context.outcome_of_weaker_tests strict .first (passes ["HARD", "EASY"]) 6).1
      (.player .first) invitation b invitation_plain (fun r holds => ?_) answer answered
    have easy : r.kind = .predicate "EASY" := by
      simpa [strict, Context.judging, passes] using holds
    simp [passes, easy]
  · exact (Context.outcome_of_weaker_tests (Harbour.world.context .default) .first
      (fun _ _ _ => true) 0).2 (Harbour.onLakes .playerPlots) none _ _ (lakes_plain _)
      (fun _ _ _ => rfl) (by rfl) (by rfl)

/-- Where a requirement is inverted, a test that holds more often can turn a subject down. -/
example :
    let set := RequirementSet.allOf [(Requirement.ofKind (.predicate "HARD")).inverted]
    strict.isEligible .first (.player .first) (some set) = .ok true ∧
    (strict.judging (passes ["HARD", "EASY"]) 6).isEligible .first (.player .first) (some set) =
      .ok false :=
  ⟨by rfl, by rfl⟩

end Circle

end YieldRules
