import YieldRules.Eligibility

/-!
# Combining results

A combination stops at the first result that is not neutral. What it answers
does not depend on where that is: the answer is neutral when every member is,
and otherwise it is the result of some member. A fault is a member's own fault.
-/

namespace YieldRules.Combinator

variable {α ε : Type} {c : Combinator} {test : α → Except ε Bool} {x : α} {xs : List α}

theorem combine_cons_neutral (passed : test x = .ok c.neutral) :
    c.combine test (x :: xs) = c.combine test xs := by
  simp only [combine, passed, if_pos]

theorem combine_cons_stops (stops : test x ≠ .ok c.neutral) :
    c.combine test (x :: xs) = test x := by
  cases hx : test x with
  | error e => simp only [combine, hx]
  | ok b =>
    have hb : b ≠ c.neutral := fun same => stops (same ▸ hx)
    simp only [combine, hx, if_neg hb]

/-- Either every member is neutral, or the first that is not gives the outcome. -/
theorem combine_stops (c : Combinator) (test : α → Except ε Bool) (xs : List α) :
    ((∀ x ∈ xs, test x = .ok c.neutral) ∧ c.combine test xs = .ok c.neutral) ∨
      ∃ before x after, xs = before ++ x :: after ∧ (∀ y ∈ before, test y = .ok c.neutral) ∧
        test x ≠ .ok c.neutral ∧ c.combine test xs = test x := by
  induction xs with
  | nil => exact Or.inl ⟨by simp, rfl⟩
  | cons x xs ih =>
    by_cases hx : test x = .ok c.neutral
    · rw [combine_cons_neutral hx]
      rcases ih with ⟨passed, h⟩ | ⟨before, y, after, rfl, passed, stops, h⟩
      · exact Or.inl ⟨List.forall_mem_cons.mpr ⟨hx, passed⟩, h⟩
      · exact Or.inr ⟨x :: before, y, after, rfl,
          List.forall_mem_cons.mpr ⟨hx, passed⟩, stops, h⟩
    · exact Or.inr ⟨[], x, xs, rfl, by simp, hx, combine_cons_stops hx⟩

/-- The fault of a combination is the fault of one of its members. -/
theorem combine_error {e : ε} (h : c.combine test xs = .error e) :
    ∃ x ∈ xs, test x = .error e := by
  rcases combine_stops c test xs with ⟨_, passed⟩ | ⟨before, x, after, rfl, _, _, stopped⟩
  · rw [passed] at h
    cases h
  · exact ⟨x, by simp, stopped.symm.trans h⟩

/-- A neutral answer has tried every member. -/
theorem combine_neutral (h : c.combine test xs = .ok c.neutral) :
    ∀ x ∈ xs, test x = .ok c.neutral := by
  rcases combine_stops c test xs with ⟨passed, _⟩ | ⟨before, x, after, rfl, _, stops, stopped⟩
  · exact passed
  · exact False.elim (stops (stopped.symm.trans h))

/-- Any other answer is the result of a member. -/
theorem combine_decided {b : Bool} (h : c.combine test xs = .ok b) (hb : b ≠ c.neutral) :
    ∃ x ∈ xs, test x = .ok b := by
  rcases combine_stops c test xs with ⟨_, passed⟩ | ⟨before, x, after, rfl, _, _, stopped⟩
  · exact False.elim (hb (Except.ok.inj (h.symm.trans passed)))
  · exact ⟨x, by simp, stopped.symm.trans h⟩

/-- The outcome depends on nothing but the results of the members. -/
theorem combine_congr {other : α → Except ε Bool} (same : ∀ x ∈ xs, other x = test x) :
    c.combine other xs = c.combine test xs := by
  induction xs with
  | nil => rfl
  | cons x xs ih =>
    have later := ih fun y hy => same y (List.mem_cons_of_mem x hy)
    simp only [combine, same x List.mem_cons_self, later]

/-- Two combinations of the same members answer alike when their tests never contradict each
other, however the members are ordered and repeated. -/
theorem combine_agree {other : α → Except ε Bool} {ys : List α} {b b' : Bool}
    (members : ∀ x, x ∈ xs ↔ x ∈ ys)
    (agree : ∀ x ∈ xs, ∀ v v', test x = .ok v → other x = .ok v' → v = v')
    (h : c.combine test xs = .ok b) (h' : c.combine other ys = .ok b') : b = b' := by
  by_cases hb : b = c.neutral
  · subst b
    by_cases hb' : b' = c.neutral
    · exact hb'.symm
    · obtain ⟨x, hx, decided⟩ := combine_decided h' hb'
      have hx := (members x).mpr hx
      exact agree x hx _ _ (combine_neutral h x hx) decided
  · obtain ⟨x, hx, decided⟩ := combine_decided h hb
    by_cases hb' : b' = c.neutral
    · subst b'
      exact agree x hx _ _ decided (combine_neutral h' x ((members x).mp hx))
    · rw [Bool.eq_not_of_ne hb, Bool.eq_not_of_ne hb']

/-- Where the second test holds whenever the first does, its combination of the same members does,
although the two may stop at different members. -/
theorem combine_mono {other : α → Except ε Bool} {b : Bool}
    (implies : ∀ x ∈ xs, ∀ v v', test x = .ok v → other x = .ok v' → v = true → v' = true)
    (h : c.combine test xs = .ok true) (h' : c.combine other xs = .ok b) : b = true := by
  cases c with
  | all =>
    by_cases hb : b = true
    · exact hb
    · obtain ⟨x, hx, decided⟩ := combine_decided h' hb
      exact implies x hx _ _ (combine_neutral h x hx) decided rfl
  | any =>
    obtain ⟨x, hx, decided⟩ := combine_decided h (by decide)
    by_cases hb : b = false
    · subst b
      exact implies x hx _ _ decided (combine_neutral h' x hx) rfl
    · exact Bool.of_not_eq_false hb

/-! ## Combining in parts -/

/-- One result, and a second that counts only where the first decides nothing. -/
def andThen (c : Combinator) (first second : Except ε Bool) : Except ε Bool :=
  match first with
  | .error e => .error e
  | .ok b => if b = c.neutral then second else .ok b

theorem andThen_neutral (c : Combinator) (second : Except ε Bool) :
    c.andThen (.ok c.neutral) second = second := by
  simp only [andThen, if_pos]

theorem andThen_assoc (c : Combinator) (first second third : Except ε Bool) :
    c.andThen (c.andThen first second) third = c.andThen first (c.andThen second third) := by
  cases first with
  | error e => rfl
  | ok b =>
    by_cases hb : b = c.neutral
    · subst b
      rw [andThen_neutral, andThen_neutral]
    · simp only [andThen, if_neg hb]

theorem andThen_decided {first second : Except ε Bool} (decided : first ≠ .ok c.neutral) :
    c.andThen first second = first := by
  cases first with
  | error e => rfl
  | ok b =>
    have hb : b ≠ c.neutral := fun same => decided (same ▸ rfl)
    simp only [andThen, if_neg hb]

theorem combine_cons (c : Combinator) (test : α → Except ε Bool) (x : α) (xs : List α) :
    c.combine test (x :: xs) = c.andThen (test x) (c.combine test xs) := rfl

theorem combine_singleton (c : Combinator) (test : α → Except ε Bool) (x : α) :
    c.combine test [x] = test x := by
  by_cases passed : test x = .ok c.neutral
  · rw [combine_cons_neutral passed, passed, combine]
  · exact combine_cons_stops passed

/-- The second part is gone through only when the first has not decided. -/
theorem combine_append (c : Combinator) (test : α → Except ε Bool) (xs ys : List α) :
    c.combine test (xs ++ ys) = c.andThen (c.combine test xs) (c.combine test ys) := by
  induction xs with
  | nil => exact (andThen_neutral c _).symm
  | cons x xs ih => rw [List.cons_append, combine_cons, ih, combine_cons, andThen_assoc]

/-! ## Opposite combinations -/

/-- The other way to combine. -/
def dual : Combinator → Combinator
  | all => any
  | any => all

theorem neutral_dual (c : Combinator) : c.dual.neutral = !c.neutral := by
  cases c <;> rfl

/-- De Morgan's law, faults included: where every result is the opposite one, the other way to
combine stops at the same member, and with the opposite answer. -/
theorem combine_dual {β : Type} (c : Combinator) (f : α → β) {other : β → Except ε Bool}
    (opposite : ∀ x ∈ xs, other (f x) = (test x).map (!·)) :
    c.dual.combine other (xs.map f) = (c.combine test xs).map (!·) := by
  induction xs with
  | nil => simp only [List.map_nil, combine, Except.map, neutral_dual]
  | cons x xs ih =>
    have later := ih fun y hy => opposite y (List.mem_cons_of_mem x hy)
    rw [List.map_cons, combine_cons, combine_cons, opposite x List.mem_cons_self, later]
    cases test x with
    | error e => rfl
    | ok b =>
      by_cases hb : b = c.neutral
      · subst b
        rw [andThen_neutral, Except.map, ← neutral_dual, andThen_neutral]
      · have hb' : (!b) ≠ c.dual.neutral := by simpa [neutral_dual] using hb
        simp only [andThen, Except.map, if_neg hb, if_neg hb']

end YieldRules.Combinator

/-! ## Types of sets -/

namespace YieldRules.RequirementSetType

variable {type type' : RequirementSetType}

/-- Whatever is not `any` asks for all requirements. -/
theorem combinator_all (h : type ≠ .any) : type.combinator = .all := by
  cases type with
  | all => rfl
  | any => exact False.elim (h rfl)
  | other name => rfl

theorem combinator_congr (same : type = .any ↔ type' = .any) :
    type.combinator = type'.combinator := by
  by_cases h : type = .any
  · rw [h, same.mp h]
  · rw [combinator_all h, combinator_all fun h' => h (same.mpr h')]

end YieldRules.RequirementSetType
