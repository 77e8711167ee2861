import YieldRules.Proofs.Combination
import YieldRules.Proofs.References
import YieldRules.Resolution

/-!
# Raising the depth limit

The limit shows in an outcome only when it is exceeded. Any other outcome, an
answer or a fault, stays the same under every higher limit, and so do the
subjects of a modifier.
-/

namespace YieldRules

def Context.withLimit (ctx : Context) (limit : Nat) : Context :=
  { ctx with options := ⟨limit⟩ }

/-- The limit on references was exceeded. -/
def TooDeep {α : Type} (out : Except Fault α) : Prop :=
  ∃ id limit, out = .error (.tooDeep id limit)

/-- Unless the limit was exceeded in the first outcome, the second is the same. -/
def Kept {α : Type} (before after : Except Fault α) : Prop :=
  TooDeep before ∨ after = before

namespace Kept

theorem refl {α : Type} (out : Except Fault α) : Kept out out :=
  Or.inr rfl

theorem eq {α : Type} {before after : Except Fault α} (kept : Kept before after)
    (settled : ¬ TooDeep before) : after = before :=
  kept.resolve_left settled

theorem map {α β : Type} {before after : Except Fault α} (kept : Kept before after)
    (f : α → β) : Kept (before.map f) (after.map f) := by
  rcases kept with ⟨id, limit, rfl⟩ | rfl
  · exact Or.inl ⟨id, limit, rfl⟩
  · exact refl _

theorem combine {α : Type} {c : Combinator} {before after : α → Except Fault Bool} {xs : List α}
    (kept : ∀ x ∈ xs, Kept (before x) (after x)) :
    Kept (c.combine before xs) (c.combine after xs) := by
  induction xs with
  | nil => exact refl _
  | cons x xs ih =>
    have rest := ih fun y hy => kept y (List.mem_cons_of_mem x hy)
    rcases kept x List.mem_cons_self with ⟨id, limit, hx⟩ | same
    · rw [Combinator.combine_cons_stops (by rw [hx]; simp)]
      exact Or.inl ⟨id, limit, hx⟩
    · by_cases passed : before x = .ok c.neutral
      · rw [Combinator.combine_cons_neutral passed,
          Combinator.combine_cons_neutral (same.trans passed)]
        exact rest
      · rw [Combinator.combine_cons_stops passed,
          Combinator.combine_cons_stops (same ▸ passed)]
        exact Or.inr same

theorem filterChecked {α : Type} {before after : α → Except Fault Bool} {xs : List α}
    (kept : ∀ x ∈ xs, Kept (before x) (after x)) :
    Kept (filterChecked before xs) (filterChecked after xs) := by
  induction xs with
  | nil => exact refl _
  | cons x xs ih =>
    have rest := ih fun y hy => kept y (List.mem_cons_of_mem x hy)
    rcases kept x List.mem_cons_self with ⟨id, limit, hx⟩ | same
    · exact Or.inl ⟨id, limit, by simp only [YieldRules.filterChecked, hx]⟩
    · cases hx : before x with
      | error e =>
        exact Or.inr (by simp only [YieldRules.filterChecked, same, hx])
      | ok keep =>
        rcases rest with ⟨id, limit, later⟩ | same'
        · exact Or.inl ⟨id, limit, by simp only [YieldRules.filterChecked, hx, later]⟩
        · exact Or.inr (by simp only [YieldRules.filterChecked, same, hx, same'])

end Kept

namespace Context

variable {ctx ctx' : Context} {player : PlayerId} {subject : Subject} {n m : Nat}

/-- Two runs under the same rules differ only where the first may follow no more references. -/
theorem meets_kept (same : ctx'.rules = ctx.rules) (more : n ≤ m) (r : Requirement) :
    Kept (ctx.meets player subject n r) (ctx'.meets player subject m r) := by
  induction n using Nat.strongRecOn generalizing m r with
  | ind n ih =>
    cases r.asks with
    | test name kind =>
      rw [meets_test kind, meets_test kind, same]
      exact .refl _
    | unnamed nameless =>
      rw [meets_unnamed nameless, meets_unnamed nameless]
      exact .refl _
    | set id refers =>
      -- The limit is checked before the look-up, so even an unregistered name exceeds it.
      cases n with
      | zero => exact Or.inl ⟨id, _, meets_exhausted refers⟩
      | succ n =>
        obtain ⟨m, rfl⟩ : ∃ k, m = k + 1 := ⟨m - 1, by omega⟩
        cases hs : ctx.rules.requirementSet id with
        | none =>
          rw [meets_unregistered refers hs, meets_unregistered refers (same ▸ hs)]
          exact .refl _
        | some t =>
          rw [meets_registered refers hs, meets_registered refers (same ▸ hs)]
          refine Kept.map (Kept.combine fun q _ => ?_) _
          exact ih n (Nat.lt_succ_self n) (Nat.le_of_succ_le_succ more) q

theorem isEligible_kept {D D' : Nat} (raised : D ≤ D') (requirements : Option RequirementSet) :
    Kept ((ctx.withLimit D).isEligible player subject requirements)
      ((ctx.withLimit D').isEligible player subject requirements) := by
  have same : (ctx.withLimit D').rules = (ctx.withLimit D).rules := rfl
  cases requirements with
  | none => exact .refl _
  | some set => exact Kept.combine fun r _ => meets_kept same raised r

theorem candidates_withLimit (ctx : Context) (limit : Nat) (player : PlayerId)
    (parent : Option Subject) (collection : Collection) :
    (ctx.withLimit limit).candidates player parent collection =
      ctx.candidates player parent collection := by
  cases collection <;> rfl

/-- An outcome that does not report the limit is the same under every higher limit, for one
subject and for all subjects of a modifier. -/
theorem outcome_of_raised_limit (ctx : Context) (player : PlayerId) {D D' : Nat}
    (raised : D ≤ D') :
    (∀ subject requirements,
      ¬ TooDeep ((ctx.withLimit D).isEligible player subject requirements) →
      (ctx.withLimit D').isEligible player subject requirements =
        (ctx.withLimit D).isEligible player subject requirements) ∧
    (∀ m parent, ¬ TooDeep ((ctx.withLimit D).subjects player m parent) →
      (ctx.withLimit D').subjects player m parent =
        (ctx.withLimit D).subjects player m parent) := by
  constructor
  · intro subject requirements settled
    exact (isEligible_kept raised requirements).eq settled
  · intro m parent settled
    have kept : Kept ((ctx.withLimit D).subjects player m parent)
        ((ctx.withLimit D').subjects player m parent) := by
      rw [subjects, subjects, candidates_withLimit, candidates_withLimit]
      exact Kept.filterChecked fun s _ => isEligible_kept raised m.subjectRequirements
    exact kept.eq settled

end Context

namespace Circle

def modifier : Modifier :=
  (Modifier.ofEffect .owner "EFFECT").withSubjectRequirements (.allOf [.reference "CIRCLE"])

theorem outcome_of_raised_limit_circle :
    1 ≤ 5 ∧
    ((context set 0).withLimit 1).subjects .first modifier none = .ok [.player .first] ∧
    ((context set 0).withLimit 5).subjects .first modifier none =
      ((context set 0).withLimit 1).subjects .first modifier none := by
  have answer : ((context set 0).withLimit 1).subjects .first modifier none =
      .ok [.player .first] := by rfl
  refine ⟨by decide, answer,
    (Context.outcome_of_raised_limit (context set 0) .first (by decide)).2 modifier none ?_⟩
  rintro ⟨id, limit, tooDeep⟩
  rw [answer] at tooDeep
  cases tooDeep

end Circle

end YieldRules
