import YieldRules.Proofs.DepthLimit
import YieldRules.Proofs.Filtering

/-!
# What can influence an evaluation

Of all definitions an evaluation reads only those of the names that it may look
up: names behind fewer references than the limit allows. A name that is met
when the limit is used up is reported and not looked up. So an outcome, fault
or answer, is the same under any two tables that agree on those names, whatever
else either of them holds.
-/

namespace YieldRules

namespace RequirementRules

variable {rules rules' : RequirementRules} {s t : RequirementSet} {id name : DataName} {n : Nat}

/-- A set of this name is reached by following at most `n` references, the one to it included. -/
def ReachesWithin (rules : RequirementRules) (n : Nat) (s : RequirementSet) (id : DataName) :
    Prop :=
  ∃ ids t, rules.Leads s ids t ∧ t.RefersTo id ∧ ids.length < n

theorem ReachesWithin.direct (refers : s.RefersTo id) : rules.ReachesWithin (n + 1) s id :=
  ⟨[], s, .here, refers, Nat.succ_pos n⟩

theorem ReachesWithin.follow (refers : s.RefersTo id)
    (registered : rules.requirementSet id = some t) (later : rules.ReachesWithin n t name) :
    rules.ReachesWithin (n + 1) s name := by
  obtain ⟨ids, u, leads, named, short⟩ := later
  exact ⟨id :: ids, u, .follow refers registered leads, named, Nat.succ_lt_succ short⟩

theorem ReachesWithin.refersTo (within : rules.ReachesWithin 1 s id) : s.RefersTo id := by
  obtain ⟨ids, t, leads, refers, short⟩ := within
  have none : ids = [] := List.length_eq_zero_iff.mp (Nat.lt_one_iff.mp short)
  subst none
  cases leads
  exact refers

theorem ReachesWithin.reaches (within : rules.ReachesWithin n s id) : rules.Reaches s id := by
  obtain ⟨ids, t, leads, refers, _⟩ := within
  exact ⟨ids, t, leads, refers⟩

/-- The same tests, and the same definitions of all names that are looked up from a set when `n`
references may be followed. Under either table these are the same names. -/
structure AgreeWithin (rules rules' : RequirementRules) (n : Nat) (s : RequirementSet) :
    Prop where
  sameTests : rules'.satisfied = rules.satisfied
  sameSets : ∀ id, rules.ReachesWithin n s id →
    rules'.requirementSet id = rules.requirementSet id

theorem AgreeWithin.sameSet (agree : rules.AgreeWithin rules' (n + 1) s)
    (refers : s.RefersTo id) : rules'.requirementSet id = rules.requirementSet id :=
  agree.sameSets id (.direct refers)

theorem AgreeWithin.follow (agree : rules.AgreeWithin rules' (n + 1) s)
    (refers : s.RefersTo id) (registered : rules.requirementSet id = some t) :
    rules.AgreeWithin rules' n t :=
  ⟨agree.sameTests, fun name later => agree.sameSets name (later.follow refers registered)⟩

end RequirementRules

namespace Context

variable {ctx ctx' : Context} {player : PlayerId} {subject : Subject} {n : Nat}
variable {set : RequirementSet}

theorem meets_of_agree
    (limit : ctx'.options.maxRequirementDepth = ctx.options.maxRequirementDepth)
    (agree : ctx.rules.AgreeWithin ctx'.rules n set) {r : Requirement}
    (hr : r ∈ set.requirements) :
    ctx'.meets player subject n r = ctx.meets player subject n r := by
  -- Behind a reference the tables need to agree on one reference less.
  induction n using Nat.strongRecOn generalizing set r with
  | ind n ih =>
    cases r.asks with
    | test name kind => rw [meets_test kind, meets_test kind, agree.sameTests]
    | unnamed nameless => rw [meets_unnamed nameless, meets_unnamed nameless]
    | set id refers =>
      cases n with
      | zero => rw [meets_exhausted refers, meets_exhausted refers, limit]
      | succ n =>
        have refers' : set.RefersTo id := ⟨r, hr, refers⟩
        have same := agree.sameSet refers'
        cases registered : ctx.rules.requirementSet id with
        | none =>
          have absent := same.trans registered
          rw [meets_unregistered refers registered, meets_unregistered refers absent]
        | some t =>
          have present := same.trans registered
          have inner : ctx'.meetsSet player subject n t = ctx.meetsSet player subject n t :=
            Combinator.combine_congr fun q hq =>
              ih n (Nat.lt_succ_self n) (agree.follow refers' registered) hq
          rw [meets_registered refers registered, meets_registered refers present, inner]

theorem isEligible_of_agree {requirements : Option RequirementSet}
    (limit : ctx'.options.maxRequirementDepth = ctx.options.maxRequirementDepth)
    (agree : ∀ set, requirements = some set →
      ctx.rules.AgreeWithin ctx'.rules ctx.options.maxRequirementDepth set) :
    ctx'.isEligible player subject requirements = ctx.isEligible player subject requirements := by
  cases requirements with
  | none => rfl
  | some set =>
    rw [isEligible, isEligible, limit]
    exact Combinator.combine_congr fun r hr => meets_of_agree limit (agree set rfl) hr

end Context

/-- The world with other requirement sets and other modifiers. -/
def World.withDefinitions (w : World) (sets : SortedMap DataName RequirementSet)
    (modifiers : List Modifier) : World :=
  { w with requirementSets := sets, modifiers }

theorem World.candidates_withDefinitions (w : World) (sets : SortedMap DataName RequirementSet)
    (modifiers : List Modifier) (options : Options) (player : PlayerId)
    (parent : Option Subject) (collection : Collection) :
    ((w.withDefinitions sets modifiers).context options).candidates player parent collection =
      (w.context options).candidates player parent collection := by
  cases collection <;> rfl

/-- Whether a subject is eligible, or why that cannot be told, depends on no definition but those
of the names that are looked up from the set within the limit. What stands under a name that the
set does not reach has no influence under any limit, and the subjects of a modifier are
independent of such sets and of all other modifiers of the world. -/
theorem Context.outcome_of_definitions_within_limit :
    (∀ (ctx ctx' : Context) (set : RequirementSet),
      ctx'.rules.satisfied = ctx.rules.satisfied →
      ctx'.options.maxRequirementDepth = ctx.options.maxRequirementDepth →
      (∀ id, ctx.rules.ReachesWithin ctx.options.maxRequirementDepth set id →
        ctx'.rules.requirementSet id = ctx.rules.requirementSet id) →
      ∀ player subject, ctx'.isEligible player subject (some set) =
        ctx.isEligible player subject (some set)) ∧
    (∀ (ctx : Context) (set : RequirementSet) (other : DataName → Option RequirementSet),
      (∀ id, ctx.rules.Reaches set id → other id = ctx.rules.requirementSet id) →
      ∀ player subject,
        { ctx with rules := ⟨other, ctx.rules.satisfied⟩ }.isEligible player subject (some set) =
          ctx.isEligible player subject (some set)) ∧
    (∀ (w : World) (options : Options) (m : Modifier)
      (sets : SortedMap DataName RequirementSet) (modifiers : List Modifier),
      (∀ set, m.subjectRequirements = some set → ∀ id,
        w.rules.ReachesWithin options.maxRequirementDepth set id →
        sets.get? id = w.requirementSets.get? id) →
      ∀ player parent,
        ((w.withDefinitions sets modifiers).context options).subjects player m parent =
          (w.context options).subjects player m parent) := by
  refine ⟨?_, ?_, ?_⟩
  · intro ctx ctx' set tests limit same player subject
    apply isEligible_of_agree limit
    intro s hs
    obtain rfl := Option.some.inj hs
    exact ⟨tests, same⟩
  · intro ctx set other same player subject
    refine isEligible_of_agree rfl fun s hs => ?_
    obtain rfl := Option.some.inj hs
    exact ⟨rfl, fun id within => same id within.reaches⟩
  · intro w options m sets modifiers same player parent
    rw [subjects, subjects, World.candidates_withDefinitions]
    apply filterChecked_congr
    intro s _
    exact isEligible_of_agree rfl fun set hs => ⟨rfl, same set hs⟩

namespace Circle

/-- Asks for a set that a limit may keep from being looked up. -/
def gated : RequirementSet :=
  .allOf [.reference "GATE"]

def gatedSets : SortedMap DataName RequirementSet :=
  SortedMap.insert {} "CIRCLE" gated

def gatedWorld : World :=
  World.empty.withDefinitions gatedSets []

def visit : RequirementSet :=
  .allOf [.reference "CIRCLE"]

/-- A table with one more set, which every evaluation of it fails on. -/
def withBroken (name : DataName) (sets : DataName → Option RequirementSet) (id : DataName) :
    Option RequirementSet :=
  if id = name then some (.allOf [.ofKind .setReference]) else sets id

theorem refersTo_reference {name id : DataName}
    (refers : (RequirementSet.allOf [.reference name]).RefersTo id) : id = name :=
  AsksOnlyFor.eq_of_refersTo (fun _ hr => .inr (List.mem_singleton.mp hr)) refers

/-- With one reference to follow the gate is named in the fault and never looked up, and nothing
refers to what is elsewhere. -/
theorem outcome_of_definitions_within_limit_circle :
    (gatedWorld.context ⟨1⟩).subjects .first modifier none = .error (.tooDeep "GATE" 1) ∧
    ((gatedWorld.withDefinitions (gatedSets.insert "GATE" gated) [modifier]).context
        ⟨1⟩).subjects .first modifier none = .error (.tooDeep "GATE" 1) ∧
    { context gated 1 with
      rules := ⟨withBroken "GATE" (context gated 1).rules.requirementSet,
        (context gated 1).rules.satisfied⟩ }.isEligible .first (.player .first) (some visit) =
      (context gated 1).isEligible .first (.player .first) (some visit) ∧
    { context visit 7 with
      rules := ⟨withBroken "ELSEWHERE" (context visit 7).rules.requirementSet,
        (context visit 7).rules.satisfied⟩ }.isEligible .first (.player .first) (some visit) =
      (context visit 7).isEligible .first (.player .first) (some visit) := by
  have faulted : (gatedWorld.context ⟨1⟩).subjects .first modifier none =
      .error (.tooDeep "GATE" 1) := by
    rfl
  refine ⟨faulted, ?_, ?_, ?_⟩
  · refine (Context.outcome_of_definitions_within_limit.2.2 gatedWorld ⟨1⟩ modifier
      (gatedSets.insert "GATE" gated) [modifier] ?_ .first none).trans faulted
    intro set required id within
    obtain rfl := Option.some.inj required
    obtain rfl := refersTo_reference within.refersTo
    rfl
  · refine Context.outcome_of_definitions_within_limit.1 (context gated 1) _ visit rfl rfl ?_ _ _
    intro id within
    obtain rfl := refersTo_reference within.refersTo
    rfl
  · refine Context.outcome_of_definitions_within_limit.2.1 (context visit 7) visit _ ?_ _ _
    intro id reaches
    have only : id = "CIRCLE" := by
      refine RequirementRules.Reaches.of_invariant (P := (· = visit)) (Q := (· = "CIRCLE"))
        rfl ?_ reaches
      rintro t rfl name refers
      obtain rfl := refersTo_reference refers
      have registered : (context visit 7).rules.requirementSet "CIRCLE" = some visit := rfl
      exact ⟨rfl, fun u found => Option.some.inj (found.symm.trans registered)⟩
    subst only
    rfl

/-- With one reference more the gate is looked up, and what it asks for counts. -/
example :
    (context gated 2).isEligible .first (.player .first) (some visit) = .ok true ∧
    { context gated 2 with
      rules := ⟨withBroken "GATE" (context gated 2).rules.requirementSet,
        (context gated 2).rules.satisfied⟩ }.isEligible .first (.player .first) (some visit) =
      .error (.missingArgument "RequirementSetId") :=
  ⟨by rfl, by rfl⟩

end Circle

end YieldRules
