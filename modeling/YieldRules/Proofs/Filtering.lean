import YieldRules.Proofs.Combination
import YieldRules.Proofs.References
import YieldRules.Proofs.SoundWorld
import YieldRules.Resolution

/-!
# Filtering with a test that may fail

A checked filter keeps every item that passes, in order and as often as it is
listed, if it can judge all of them. Otherwise the first item that it cannot
judge gives the fault, and what stands behind that item is never tested. So the
subjects of a modifier depend on its collection and on its subject requirements
and on nothing else that it holds.
-/

namespace YieldRules

section

variable {α ε : Type} {test : α → Except ε Bool} {xs kept : List α} {e : ε}

/-- A test comes to an answer on every item. -/
def Judged (test : α → Except ε Bool) (xs : List α) : Prop :=
  ∀ x ∈ xs, ∃ b, test x = .ok b

/-- The items that pass; one that cannot be judged does not pass. -/
def passing (test : α → Except ε Bool) (xs : List α) : List α :=
  xs.filter fun x => (test x).toOption == some true

theorem filterChecked_of_judged (judged : Judged test xs) :
    filterChecked test xs = .ok (passing test xs) := by
  induction xs with
  | nil => rfl
  | cons x xs ih =>
    obtain ⟨⟨b, hx⟩, judged⟩ := List.forall_mem_cons.mp judged
    rw [passing, List.filter_cons, hx]
    simp only [filterChecked, hx, ih judged]
    cases b <;> rfl

theorem filterChecked_of_fault {before after : List α} {x : α} (judged : Judged test before)
    (failed : test x = .error e) : filterChecked test (before ++ x :: after) = .error e := by
  induction before with
  | nil => simp only [List.nil_append, filterChecked, failed]
  | cons y before ih =>
    obtain ⟨⟨b, hy⟩, judged⟩ := List.forall_mem_cons.mp judged
    simp only [List.cons_append, filterChecked, hy, ih judged]

/-- Unless all items can be judged, there is a first that cannot. -/
theorem judged_or_fault (test : α → Except ε Bool) (xs : List α) :
    Judged test xs ∨
      ∃ before x after e, xs = before ++ x :: after ∧ Judged test before ∧ test x = .error e := by
  induction xs with
  | nil => exact Or.inl (by simp [Judged])
  | cons x xs ih =>
    cases hx : test x with
    | error e => exact Or.inr ⟨[], x, xs, e, rfl, by simp [Judged], hx⟩
    | ok b =>
      rcases ih with judged | ⟨before, y, after, e, rfl, judged, failed⟩
      · exact Or.inl (List.forall_mem_cons.mpr ⟨⟨b, hx⟩, judged⟩)
      · exact Or.inr ⟨x :: before, y, after, e, rfl,
          List.forall_mem_cons.mpr ⟨⟨b, hx⟩, judged⟩, failed⟩

theorem filterChecked_eq_ok_iff :
    filterChecked test xs = .ok kept ↔ Judged test xs ∧ kept = passing test xs := by
  constructor
  · intro h
    rcases judged_or_fault test xs with judged | ⟨before, x, after, e, rfl, judged, failed⟩
    · rw [filterChecked_of_judged judged] at h
      exact ⟨judged, (Except.ok.inj h).symm⟩
    · rw [filterChecked_of_fault judged failed] at h
      cases h
  · rintro ⟨judged, rfl⟩
    exact filterChecked_of_judged judged

theorem filterChecked_eq_error_iff :
    filterChecked test xs = .error e ↔
      ∃ before x after, xs = before ++ x :: after ∧ Judged test before ∧ test x = .error e := by
  constructor
  · intro h
    rcases judged_or_fault test xs with judged | ⟨before, x, after, e', rfl, judged, failed⟩
    · rw [filterChecked_of_judged judged] at h
      cases h
    · rw [filterChecked_of_fault judged failed] at h
      cases h
      exact ⟨before, x, after, rfl, judged, failed⟩
  · rintro ⟨before, x, after, rfl, judged, failed⟩
    exact filterChecked_of_fault judged failed

theorem filterChecked_congr {other : α → Except ε Bool} (same : ∀ x ∈ xs, other x = test x) :
    filterChecked other xs = filterChecked test xs := by
  induction xs with
  | nil => rfl
  | cons x xs ih =>
    have later := ih fun y hy => same y (List.mem_cons_of_mem x hy)
    simp only [filterChecked, same x List.mem_cons_self, later]

theorem passes_iff {out : Except ε Bool} : (out.toOption == some true) = true ↔ out = .ok true := by
  cases out <;> simp [Except.toOption]

theorem mem_passing {x : α} : x ∈ passing test xs ↔ x ∈ xs ∧ test x = .ok true := by
  rw [passing, List.mem_filter, passes_iff]

/-- Every place of an item in the list is kept, or none is. -/
theorem count_kept [DecidableEq α] (h : filterChecked test xs = .ok kept) (x : α) :
    (test x = .ok true → kept.count x = xs.count x) ∧
      (test x ≠ .ok true → kept.count x = 0) := by
  obtain ⟨_, rfl⟩ := filterChecked_eq_ok_iff.mp h
  constructor
  · intro passes
    exact List.count_filter (by simp [passes, Except.toOption])
  · intro fails
    exact List.count_eq_zero_of_not_mem fun listed => fails (mem_passing.mp listed).2

/-- A test that does not refuse what another one passes keeps all that the other one keeps. -/
theorem filterChecked_sublist {other : α → Except ε Bool} {kept' : List α}
    (implies : ∀ x ∈ xs, ∀ b, test x = .ok true → other x = .ok b → b = true)
    (h : filterChecked test xs = .ok kept) (h' : filterChecked other xs = .ok kept') :
    kept.Sublist kept' := by
  obtain ⟨_, rfl⟩ := filterChecked_eq_ok_iff.mp h
  obtain ⟨judged, rfl⟩ := filterChecked_eq_ok_iff.mp h'
  have within : passing test xs = passing test (passing other xs) := by
    rw [passing, passing, passing, List.filter_filter]
    refine List.filter_congr fun x hx => Bool.eq_iff_iff.mpr ?_
    rw [Bool.and_eq_true, passes_iff, passes_iff]
    constructor
    · intro passes
      obtain ⟨b, hb⟩ := judged x hx
      exact ⟨passes, implies x hx b passes hb ▸ hb⟩
    · exact And.left
  rw [within]
  exact List.filter_sublist

/-- Where all answers are known, a checked filter is a filter. -/
theorem filterChecked_of_answers {p : α → Bool} (answers : ∀ x ∈ xs, test x = .ok (p x)) :
    filterChecked test xs = .ok (xs.filter p) := by
  refine filterChecked_eq_ok_iff.mpr ⟨fun x hx => ⟨p x, answers x hx⟩, ?_⟩
  refine List.filter_congr fun x hx => ?_
  simp [answers x hx, Except.toOption]

end

namespace Context

/-- Without requirements every candidate is a subject. -/
theorem subjects_of_no_requirements {ctx : Context} {player : PlayerId} {m : Modifier}
    {parent : Option Subject} (free : m.subjectRequirements = none) :
    ctx.subjects player m parent = .ok (ctx.candidates player parent m.collection) := by
  have eligible (s : Subject) : ctx.isEligible player s m.subjectRequirements = .ok true := by
    rw [free]
    rfl
  rw [subjects, filterChecked_of_answers fun s _ => eligible s, List.filter_true]

theorem isEligible_of_test {ctx : Context} {player : PlayerId} {subject : Subject}
    {r : Requirement} {name : String} (kind : r.kind = .predicate name)
    (plain : r.inverse = false) (id : Option DataName) :
    ctx.isEligible player subject (some ⟨id, .all, [r]⟩) =
      .ok (ctx.rules.satisfied player subject r) := by
  rw [isEligible, meetsSet, Combinator.combine_singleton, meets_test kind, plain,
    Bool.bne_false]

/-- Under a single test that is not inverted the subjects are the candidates that satisfy it. -/
theorem subjects_of_test {ctx : Context} {player : PlayerId} {m : Modifier}
    {parent : Option Subject} {r : Requirement} {name : String} {id : Option DataName}
    (kind : r.kind = .predicate name) (plain : r.inverse = false)
    (single : m.subjectRequirements = some ⟨id, .all, [r]⟩) :
    ctx.subjects player m parent = .ok ((ctx.candidates player parent m.collection).filter
      fun s => ctx.rules.satisfied player s r) := by
  refine filterChecked_of_answers fun s _ => ?_
  rw [single, isEligible_of_test kind plain]

/-- The subjects of a modifier are its eligible candidates, or there are none because of the first
candidate that cannot be judged. -/
theorem subjects_eq_eligible_candidates (ctx : Context) (player : PlayerId) (m : Modifier)
    (parent : Option Subject) :
    (∀ l, ctx.subjects player m parent = .ok l ↔
      (∀ s ∈ ctx.candidates player parent m.collection,
        ∃ b, ctx.isEligible player s m.subjectRequirements = .ok b) ∧
      l = (ctx.candidates player parent m.collection).filter fun s =>
        (ctx.isEligible player s m.subjectRequirements).toOption == some true) ∧
    (∀ e, ctx.subjects player m parent = .error e ↔
      ∃ before s after, ctx.candidates player parent m.collection = before ++ s :: after ∧
        (∀ x ∈ before, ∃ b, ctx.isEligible player x m.subjectRequirements = .ok b) ∧
        ctx.isEligible player s m.subjectRequirements = .error e) ∧
    (m.subjectRequirements = none →
      ctx.subjects player m parent = .ok (ctx.candidates player parent m.collection)) ∧
    (ctx.candidates player parent m.collection = [] → ctx.subjects player m parent = .ok []) ∧
    ∀ other : Modifier, other.collection = m.collection →
      other.subjectRequirements = m.subjectRequirements →
      ctx.subjects player other parent = ctx.subjects player m parent := by
  refine ⟨fun l => filterChecked_eq_ok_iff, fun e => filterChecked_eq_error_iff,
    subjects_of_no_requirements, ?_, ?_⟩
  · intro empty
    rw [subjects, empty, filterChecked]
  · intro other collection requirements
    rw [subjects, subjects, collection, requirements]

end Context

namespace Harbour

/-- A modifier for lakes. -/
def onLakes (collection : Collection) : Modifier :=
  (Modifier.ofEffect collection "EFFECT").withSubjectRequirements
    (.allOf [.ofKind (.predicate "REQUIREMENT_PLOT_IS_LAKE")])

/-- A modifier that asks for a set without naming it. -/
def onNameless (collection : Collection) : Modifier :=
  (Modifier.ofEffect collection "EFFECT").withSubjectRequirements
    (.anyOf [.ofKind .setReference])

theorem subjects_eq_eligible_candidates_harbour :
    (world.context .default).subjects .first (onLakes .playerPlots) none =
      .ok (List.replicate 4 (.plot city (world.map.indexOf pier))) ∧
    (world.context .default).subjects .first (onNameless .playerPlots) none =
      .error (.missingArgument "RequirementSetId") ∧
    (world.context .default).subjects .first (onNameless .cityPlots) none = .ok [] := by
  have lakes := Context.subjects_eq_eligible_candidates (world.context .default) .first
    (onLakes .playerPlots) none
  have nameless := Context.subjects_eq_eligible_candidates (world.context .default) .first
    (onNameless .playerPlots) none
  have parentless := Context.subjects_eq_eligible_candidates (world.context .default) .first
    (onNameless .cityPlots) none
  refine ⟨(lakes.1 _).mpr ⟨fun s _ => ?_, by rfl⟩, (nameless.2.1 _).mpr ?_,
    parentless.2.2.2.1 rfl⟩
  · exact ⟨_, Context.isEligible_of_test rfl rfl none⟩
  · exact ⟨[], .plot city (world.map.indexOf pier), _, rfl, by simp, rfl⟩

end Harbour

end YieldRules
