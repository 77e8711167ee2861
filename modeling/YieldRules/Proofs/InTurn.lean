import Mathlib.Data.List.Basic

/-!
# Listing in turn

A listing goes through some items in their order. An item that shows something
has one entry, an item that shows nothing has none, and no entry comes from
anywhere else.
-/

namespace YieldRules

variable {α β : Type} {shows : α → β → Prop} {xs : List α} {ys : List β}

/-- The entries of a listing are what the items show, in the order of the items. -/
inductive InTurn (shows : α → β → Prop) : List α → List β → Prop where
  | done : InTurn shows [] []
  | shown {x : α} {y : β} {xs : List α} {ys : List β} (here : shows x y)
      (later : InTurn shows xs ys) : InTurn shows (x :: xs) (y :: ys)
  | passed {x : α} {xs : List α} {ys : List β} (nothing : ∀ y, ¬ shows x y)
      (later : InTurn shows xs ys) : InTurn shows (x :: xs) ys

section

variable {f : α → Option β} (exact : ∀ x y, f x = some y ↔ shows x y)
include exact

theorem inTurn_filterMap (xs : List α) : InTurn shows xs (xs.filterMap f) := by
  induction xs with
  | nil => exact .done
  | cons x xs ih =>
    cases here : f x with
    | none =>
      rw [List.filterMap_cons_none here]
      apply InTurn.passed _ ih
      intro y shown
      rw [(exact x y).mpr shown] at here
      cases here
    | some y =>
      rw [List.filterMap_cons_some here]
      exact .shown ((exact x y).mp here) ih

theorem InTurn.eq_filterMap (listing : InTurn shows xs ys) : ys = xs.filterMap f := by
  induction listing with
  | done => rfl
  | shown here _ ih => rw [List.filterMap_cons_some ((exact _ _).mpr here), ih]
  | @passed x xs ys nothing _ ih =>
    have unknown : f x = none := by
      apply Option.eq_none_iff_forall_ne_some.mpr
      intro y known
      exact nothing y ((exact x y).mp known)
    rw [List.filterMap_cons_none unknown, ih]

/-- Where a function gives what an item shows, there is one listing. -/
theorem eq_filterMap_iff : ys = xs.filterMap f ↔ InTurn shows xs ys := by
  constructor
  · rintro rfl
    exact inTurn_filterMap exact xs
  · exact InTurn.eq_filterMap exact

end

/-- To filter a list and to read something off what is left is to list it in turn. -/
theorem eq_map_filter_iff {p : α → Bool} {g : α → β} :
    ys = (xs.filter p).map g ↔ InTurn (fun x y => g x = y ∧ p x = true) xs ys := by
  rw [← List.filterMap_eq_map, List.filterMap_filter]
  apply eq_filterMap_iff
  intro x y
  by_cases passes : p x = true
  · simp [passes]
  · simp [passes]

end YieldRules
