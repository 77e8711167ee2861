import YieldRules.Argument
import YieldRules.Proofs.Entries

/-!
# Values of arguments

An argument gives its value when it is there and the value is not empty. Whatever is
read of arguments is settled by the arguments of the names that are asked for.
-/

namespace YieldRules

namespace Arguments

variable {args : Arguments} {name value : String}

/-- The argument is there, and its value is this one and not empty. -/
def Gives (args : Arguments) (name value : String) : Prop :=
  value ≠ "" ∧ ∃ a, args.get? name = some a ∧ a.value = value

theorem value?_eq_some_iff : args.value? name = some value ↔ args.Gives name value := by
  simp only [value?, Option.map_eq_some_iff, Option.filter_eq_some_iff, Argument.isSet,
    Bool.not_eq_true', Gives]
  constructor
  · rintro ⟨a, ⟨there, filled⟩, rfl⟩
    refine ⟨?_, a, there, rfl⟩
    intro empty
    rw [empty] at filled
    cases filled
  · rintro ⟨filled, a, there, rfl⟩
    refine ⟨a, ⟨there, ?_⟩, rfl⟩
    simpa [String.isEmpty_eq_false_iff] using filled

theorem value?_eq_none_iff : args.value? name = none ↔ ∀ value, ¬ args.Gives name value := by
  simp only [Option.eq_none_iff_forall_ne_some, ne_eq, value?_eq_some_iff]

theorem get?_set_self (args : Arguments) (name value : String) :
    (args.set name value).get? name = some (.ofValue value) :=
  args.get?_insert_self name _

theorem get?_set_of_ne {name' : String} (differs : name' ≠ name) :
    (args.set name value).get? name' = args.get? name' :=
  args.get?_insert_of_ne _ differs

end Arguments

end YieldRules
