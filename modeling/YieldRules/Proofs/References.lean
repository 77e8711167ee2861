import YieldRules.Eligibility
import YieldRules.World.View

/-!
# References between requirement sets

A reference names a set; the rules may hold a set of that name or none, and
nothing keeps references from running in circles. Paths of references are
counted by the names on them, all of which belong to registered sets. After
that stands what a requirement of each kind does in one step of an evaluation,
and at the end a set that refers to itself and one that leads out of the rules,
to try statements on.
-/

namespace YieldRules

namespace Requirement

/-- The name that a reference carries. -/
def target? (r : Requirement) : Option DataName :=
  (r.arguments.get? setIdArgument).map (·.value)

theorem target?_reference (id : DataName) : (reference id).target? = some id := by
  have single : (reference id).arguments.entries = [(setIdArgument, .ofValue id)] := rfl
  simp [target?, SortedMap.get?, single, Std.compare_self, Argument.ofValue]

def RefersTo (r : Requirement) (id : DataName) : Prop :=
  r.kind = .setReference ∧ r.target? = some id

theorem refersTo_reference_iff {name id : DataName} :
    (reference name).RefersTo id ↔ id = name := by
  constructor
  · rintro ⟨_, target⟩
    exact Option.some.inj (target.symm.trans (target?_reference name))
  · rintro rfl
    exact ⟨rfl, target?_reference id⟩

/-- A reference that carries no name. -/
def Unnamed (r : Requirement) : Prop :=
  r.kind = .setReference ∧ r.target? = none

/-- What a requirement asks for. -/
inductive Asks (r : Requirement) : Prop where
  | test (name : String) (kind : r.kind = .predicate name)
  | unnamed (nameless : r.Unnamed)
  | set (id : DataName) (refers : r.RefersTo id)

theorem asks (r : Requirement) : r.Asks := by
  cases hk : r.kind with
  | predicate name => exact .test name hk
  | setReference =>
    cases ht : r.target? with
    | none => exact .unnamed ⟨hk, ht⟩
    | some id => exact .set id ⟨hk, ht⟩

theorem setId_of_refersTo {r : Requirement} {id : DataName} (refers : r.RefersTo id) :
    r.setId = .ok id := by
  obtain ⟨a, ha, rfl⟩ := Option.map_eq_some_iff.mp refers.2
  simp only [setId, Arguments.required, ha]

theorem setId_of_unnamed {r : Requirement} (nameless : r.Unnamed) :
    r.setId = .error (.missingArgument setIdArgument) := by
  have ha := Option.map_eq_none_iff.mp nameless.2
  simp only [setId, Arguments.required, ha, Fault.ofArgument]

end Requirement

namespace RequirementSet

def RefersTo (s : RequirementSet) (id : DataName) : Prop :=
  ∃ r ∈ s.requirements, r.RefersTo id

def HasUnnamed (s : RequirementSet) : Prop :=
  ∃ r ∈ s.requirements, r.Unnamed

end RequirementSet

namespace RequirementRules

variable {rules : RequirementRules} {s t u : RequirementSet} {id : DataName} {ids : List DataName}

/-- References with these names, each followed into the set that it names, lead from set to set. -/
inductive Leads (rules : RequirementRules) :
    RequirementSet → List DataName → RequirementSet → Prop where
  | here {s : RequirementSet} : Leads rules s [] s
  | follow {s t u : RequirementSet} {id : DataName} {ids : List DataName} :
      s.RefersTo id → rules.requirementSet id = some t → Leads rules t ids u →
      Leads rules s (id :: ids) u

/-- A set of this name is asked for, at once or after references to registered sets. -/
def Reaches (rules : RequirementRules) (s : RequirementSet) (id : DataName) : Prop :=
  ∃ ids t, rules.Leads s ids t ∧ t.RefersTo id

/-- More than `n` references follow each other; the last may name a set that is not there. -/
def Overruns (rules : RequirementRules) (s : RequirementSet) (n : Nat) : Prop :=
  ∃ ids t id, ids.length = n ∧ rules.Leads s ids t ∧ t.RefersTo id

/-- Every reference in the set, or in a set that it leads to, carries a name. -/
def AllNamed (rules : RequirementRules) (s : RequirementSet) : Prop :=
  ∀ ids t, rules.Leads s ids t → ¬ t.HasUnnamed

/-- What holds of a set and of every registered one holds wherever references lead. -/
theorem Leads.of_registered {P : RequirementSet → Prop}
    (sets : ∀ id t, rules.requirementSet id = some t → P t) (own : P s)
    (leads : rules.Leads s ids t) : P t := by
  induction leads with
  | here => exact own
  | follow _ registered _ ih => exact ih (sets _ _ registered)

/-- Where every registered set is complete it is enough to look at the set itself. -/
theorem allNamed_of_registered
    (sets : ∀ id t, rules.requirementSet id = some t → ¬ t.HasUnnamed) (own : ¬ s.HasUnnamed) :
    rules.AllNamed s :=
  fun _ _ leads => leads.of_registered sets own

theorem Reaches.follow (refers : s.RefersTo id) (registered : rules.requirementSet id = some t)
    {name : DataName} (later : rules.Reaches t name) : rules.Reaches s name := by
  obtain ⟨ids, u, leads, named⟩ := later
  exact ⟨id :: ids, u, .follow refers registered leads, named⟩

theorem Reaches.direct (refers : s.RefersTo id) : rules.Reaches s id :=
  ⟨[], s, .here, refers⟩

/-- What holds of every name that is referred to, from a set to the sets that it names, holds of
every name that is reached. -/
theorem Reaches.of_invariant {P : RequirementSet → Prop} {Q : DataName → Prop} (start : P s)
    (invariant : ∀ t, P t → ∀ id, t.RefersTo id →
      Q id ∧ ∀ u, rules.requirementSet id = some u → P u)
    (reaches : rules.Reaches s id) : Q id := by
  obtain ⟨ids, t, leads, refers⟩ := reaches
  induction leads with
  | here => exact (invariant _ start id refers).1
  | follow first registered _ ih => exact ih ((invariant _ start _ first).2 _ registered) refers

theorem Overruns.follow (refers : s.RefersTo id) (registered : rules.requirementSet id = some t)
    {n : Nat} (later : rules.Overruns t n) : rules.Overruns s (n + 1) := by
  obtain ⟨ids, u, name, length, leads, named⟩ := later
  exact ⟨id :: ids, u, name, by rw [List.length_cons, length],
    .follow refers registered leads, named⟩

theorem overruns_zero_iff : rules.Overruns s 0 ↔ ∃ id, s.RefersTo id := by
  constructor
  · rintro ⟨ids, t, id, length, leads, refers⟩
    cases leads with
    | here => exact ⟨id, refers⟩
    | follow _ _ _ => cases length
  · rintro ⟨id, refers⟩
    exact ⟨[], s, id, rfl, .here, refers⟩

/-- A longer chain is a reference to a registered set and a chain from there. -/
theorem overruns_succ_iff {n : Nat} : rules.Overruns s (n + 1) ↔
    ∃ id t, s.RefersTo id ∧ rules.requirementSet id = some t ∧ rules.Overruns t n := by
  constructor
  · rintro ⟨ids, u, name, length, leads, named⟩
    cases leads with
    | here => cases length
    | follow refers registered later =>
      exact ⟨_, _, refers, registered, _, u, name, Nat.succ.inj length, later, named⟩
  · rintro ⟨id, t, refers, registered, overruns⟩
    exact overruns.follow refers registered

end RequirementRules

namespace Context

variable {ctx : Context} {player : PlayerId} {subject : Subject} {n : Nat} {r : Requirement}
variable {id : DataName} {set : RequirementSet}

theorem meets_test {name : String} (kind : r.kind = .predicate name) :
    ctx.meets player subject n r = .ok (ctx.rules.satisfied player subject r != r.inverse) := by
  unfold meets
  simp only [kind]

theorem meets_unnamed (nameless : r.Unnamed) :
    ctx.meets player subject n r = .error (.missingArgument Requirement.setIdArgument) := by
  unfold meets
  simp only [nameless.1, Requirement.setId_of_unnamed nameless]

theorem meets_exhausted (refers : r.RefersTo id) :
    ctx.meets player subject 0 r = .error (.tooDeep id ctx.options.maxRequirementDepth) := by
  unfold meets
  simp only [refers.1, Requirement.setId_of_refersTo refers]

theorem meets_unregistered (refers : r.RefersTo id)
    (unregistered : ctx.rules.requirementSet id = none) :
    ctx.meets player subject (n + 1) r = .ok (true != r.inverse) := by
  unfold meets
  simp only [refers.1, Requirement.setId_of_refersTo refers, unregistered]

theorem meets_registered (refers : r.RefersTo id)
    (registered : ctx.rules.requirementSet id = some set) :
    ctx.meets player subject (n + 1) r =
      (ctx.meetsSet player subject n set).map (· != r.inverse) := by
  unfold meets
  simp only [refers.1, Requirement.setId_of_refersTo refers, registered, meetsSet]
  cases set.setType.combinator.combine (ctx.meets player subject n) set.requirements <;> rfl

/-- The ways in which a requirement comes to an answer or to a fault. -/
inductive Outcome (ctx : Context) (player : PlayerId) (subject : Subject) :
    Nat → Requirement → Except Fault Bool → Prop where
  | test {n : Nat} {r : Requirement} {name : String} (kind : r.kind = .predicate name) :
      Outcome ctx player subject n r (.ok (ctx.rules.satisfied player subject r != r.inverse))
  | unnamed {n : Nat} {r : Requirement} (nameless : r.Unnamed) :
      Outcome ctx player subject n r (.error (.missingArgument Requirement.setIdArgument))
  | exhausted {r : Requirement} {id : DataName} (refers : r.RefersTo id) :
      Outcome ctx player subject 0 r (.error (.tooDeep id ctx.options.maxRequirementDepth))
  | unregistered {n : Nat} {r : Requirement} {id : DataName} (refers : r.RefersTo id)
      (absent : ctx.rules.requirementSet id = none) :
      Outcome ctx player subject (n + 1) r (.ok (true != r.inverse))
  | answered {n : Nat} {r : Requirement} {id : DataName} {t : RequirementSet} {b : Bool}
      (refers : r.RefersTo id) (registered : ctx.rules.requirementSet id = some t)
      (inner : ctx.meetsSet player subject n t = .ok b) :
      Outcome ctx player subject (n + 1) r (.ok (b != r.inverse))
  | failed {n : Nat} {r : Requirement} {id : DataName} {t : RequirementSet} {e : Fault}
      (refers : r.RefersTo id) (registered : ctx.rules.requirementSet id = some t)
      (inner : ctx.meetsSet player subject n t = .error e) :
      Outcome ctx player subject (n + 1) r (.error e)

theorem outcome_of_meets {out : Except Fault Bool} (h : ctx.meets player subject n r = out) :
    ctx.Outcome player subject n r out := by
  subst h
  cases r.asks with
  | test name kind =>
    rw [meets_test kind]
    exact .test kind
  | unnamed nameless =>
    rw [meets_unnamed nameless]
    exact .unnamed nameless
  | set id refers =>
    cases n with
    | zero =>
      rw [meets_exhausted refers]
      exact .exhausted refers
    | succ n =>
      cases hs : ctx.rules.requirementSet id with
      | none =>
        rw [meets_unregistered refers hs]
        exact .unregistered refers hs
      | some t =>
        rw [meets_registered refers hs]
        cases ht : ctx.meetsSet player subject n t with
        | error e => exact .failed refers hs ht
        | ok b => exact .answered refers hs ht

end Context

namespace Circle

/-- A test that no world knows, inverted. -/
def alwaysMet : Requirement :=
  (Requirement.ofKind (.predicate "UNKNOWN")).inverted

/-- Asks for itself, unless something else decides first. -/
def set : RequirementSet :=
  .anyOf [alwaysMet, .reference "CIRCLE"]

/-- An empty world whose rules hold one set. -/
def context (s : RequirementSet) (limit : Nat) : Context :=
  { World.empty.context ⟨limit⟩ with
    rules := ⟨fun id => if id = "CIRCLE" then some s else none, World.empty.satisfied⟩ }

/-- Asks for a set that is not there. -/
def outlet : RequirementSet :=
  .allOf [alwaysMet, .reference "NOWHERE"]

def entry : RequirementSet :=
  .allOf [.reference "CIRCLE", alwaysMet]

variable {s t : RequirementSet} {name id : DataName} {n : Nat}

theorem eq_of_registered (registered : (context s n).rules.requirementSet id = some t) :
    t = s := by
  by_cases h : id = "CIRCLE"
  · simpa only [context, if_pos h, Option.some.injEq, eq_comm] using registered
  · simp only [context, if_neg h, reduceCtorEq] at registered

/-- Every requirement always holds or refers to a set of one name. -/
def AsksOnlyFor (s : RequirementSet) (name : DataName) : Prop :=
  ∀ r ∈ s.requirements, r = alwaysMet ∨ r = .reference name

theorem outlet_asksOnlyFor : AsksOnlyFor outlet "NOWHERE" := by
  simp [AsksOnlyFor, outlet, RequirementSet.allOf]

theorem entry_asksOnlyFor : AsksOnlyFor entry "CIRCLE" := by
  simp [AsksOnlyFor, entry, RequirementSet.allOf]

theorem AsksOnlyFor.eq_of_refersTo (asks : AsksOnlyFor s name) (refers : s.RefersTo id) :
    id = name := by
  obtain ⟨r, hr, named⟩ := refers
  rcases asks r hr with rfl | rfl
  · cases named.1
  · exact Requirement.refersTo_reference_iff.mp named

theorem AsksOnlyFor.complete (asks : AsksOnlyFor s name) : ¬ s.HasUnnamed := by
  rintro ⟨r, hr, kind, nameless⟩
  rcases asks r hr with rfl | rfl
  · cases kind
  · rw [Requirement.target?_reference] at nameless
    cases nameless

/-- From the entry two references follow each other, through the outlet and out of it. -/
theorem entry_short (n m : Nat) : ¬ (context outlet n).rules.Overruns entry (m + 2) := by
  intro overruns
  obtain ⟨_, t, _, inside, overruns⟩ := RequirementRules.overruns_succ_iff.mp overruns
  obtain rfl := eq_of_registered inside
  obtain ⟨id, t, refers, registered, _⟩ := RequirementRules.overruns_succ_iff.mp overruns
  obtain rfl := outlet_asksOnlyFor.eq_of_refersTo refers
  cases registered

theorem entry_named (n : Nat) : (context outlet n).rules.AllNamed entry := by
  refine RequirementRules.allNamed_of_registered ?_ entry_asksOnlyFor.complete
  intro id t registered
  rw [eq_of_registered registered]
  exact outlet_asksOnlyFor.complete

end Circle

end YieldRules
