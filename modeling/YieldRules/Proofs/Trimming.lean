import YieldRules.Text.Blank
import Mathlib.Data.List.TakeWhile

/-!
# Trimming

White space at the ends of a text is padding. Trimming takes it off, so padding a text
changes nothing that is read of it after it is trimmed.
-/

namespace YieldRules.Text

variable {s before after : List Char}

/-- White space and nothing else. -/
def Blank (s : List Char) : Prop :=
  ∀ c ∈ s, isBlank c = true

instance : Decidable (Blank s) :=
  decidable_of_iff (s.all isBlank = true) List.all_eq_true

theorem dropEndWhile_append {α : Type} {p : α → Bool} {xs ys : List α}
    (passes : ∀ y ∈ ys, p y = true) : dropEndWhile p (xs ++ ys) = dropEndWhile p xs := by
  rw [dropEndWhile, dropEndWhile, List.reverse_append,
    List.dropWhile_append_of_pos fun y there => passes y (List.mem_reverse.mp there)]

theorem trim_of_blank (blank : Blank s) : trim s = [] := by
  rw [trim, List.dropWhile_eq_nil_iff.mpr blank]
  rfl

theorem trim_append_blank (blank : Blank after) : trim (s ++ after) = trim s := by
  by_cases all : Blank s
  · have whole : Blank (s ++ after) := fun c there =>
      (List.mem_append.mp there).elim (all c) (blank c)
    rw [trim_of_blank whole, trim_of_blank all]
  · have rest : s.dropWhile isBlank ≠ [] := fun empty => all (List.dropWhile_eq_nil_iff.mp empty)
    rw [trim, List.dropWhile_append, if_neg (by simpa using rest), dropEndWhile_append blank, trim]

theorem trim_padded (blank : Blank before) (blank' : Blank after) :
    trim (before ++ s ++ after) = trim s := by
  rw [trim_append_blank blank', trim, List.dropWhile_append_of_pos blank, trim]

end YieldRules.Text
