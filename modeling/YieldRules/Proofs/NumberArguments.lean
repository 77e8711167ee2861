import YieldRules.Magnitude
import YieldRules.World.Predicates
import YieldRules.Proofs.ArgumentValues
import YieldRules.Proofs.NumeralConversion
import YieldRules.Proofs.Numerals
import YieldRules.Proofs.SoundWorld
import YieldRules.Proofs.Trimming

/-!
# Arguments that hold numbers

An argument that is not set holds no number and is no fault. A set one is trimmed, and
what is left has to spell a numeral that has a finite float. Everything else is refused,
and the fault shows the value as it was written. So no number that is read of an argument
is infinite, and white space around a value is not seen.
-/

namespace YieldRules

open Decimal Text

namespace Arguments

variable {args args' : Arguments} {name raw : String} {x : Float} {e : ArgumentFault}

/-! ## Texts of numbers -/

theorem parseFinite?_eq_some_iff {cs : List Char} :
    parseFinite? cs = some x ↔ ∃ n, Spells cs n ∧ n.ConvertsTo x := by
  simp only [parseFinite?, Option.bind_eq_bind, Option.bind_eq_some_iff, parse?_eq_some_iff,
    Option.ite_none_right_eq_some, Option.some.injEq, Numeral.convertsTo_iff]
  constructor
  · rintro ⟨n, spells, finite, rfl⟩
    exact ⟨n, spells, rfl, finite⟩
  · rintro ⟨n, spells, rfl, finite⟩
    exact ⟨n, spells, finite, rfl⟩

theorem parseFinite?_eq_none_iff {cs : List Char} :
    parseFinite? cs = none ↔ ∀ n, Spells cs n → overflow ≤ n.magnitude := by
  simp only [Option.eq_none_iff_forall_ne_some, ne_eq, parseFinite?_eq_some_iff, not_exists,
    not_and]
  constructor
  · intro refused n spells
    rw [← not_lt, ← Numeral.exists_convertsTo_iff, not_exists]
    intro x
    exact refused x n spells
  · intro large x n spells converts
    exact not_le.mpr converts.inRange (large n spells)

/-! ## The number of an argument -/

theorem gives_unique {raw' : String} (given : args.Gives name raw)
    (given' : args.Gives name raw') : raw = raw' := by
  rw [← value?_eq_some_iff] at given given'
  exact Option.some.inj (given.symm.trans given')

/-- An argument that is not set is not there or has an empty value. -/
theorem forall_not_gives_iff :
    (∀ raw, ¬ args.Gives name raw) ↔ ∀ a, args.get? name = some a → a.value = "" := by
  constructor
  · intro unset a there
    by_contra filled
    exact unset a.value ⟨filled, a, there, rfl⟩
  · rintro empty raw ⟨filled, a, there, rfl⟩
    exact filled (empty a there)

theorem number_of_unset (unset : ∀ raw, ¬ args.Gives name raw) : args.number name = .ok none := by
  rw [number, value?_eq_none_iff.mpr unset]

theorem number_of_read (given : args.Gives name raw)
    (read : parseFinite? (trim raw.toList) = some x) : args.number name = .ok (some x) := by
  rw [number, value?_eq_some_iff.mpr given]
  simp only [read]

theorem number_of_refused (given : args.Gives name raw)
    (refused : parseFinite? (trim raw.toList) = none) :
    args.number name = .error (.notANumber name raw) := by
  rw [number, value?_eq_some_iff.mpr given]
  simp only [refused]

/-- The three outcomes, told by what decides each of them. -/
theorem number_cases (args : Arguments) (name : String) :
    ((∀ raw, ¬ args.Gives name raw) ∧ args.number name = .ok none) ∨
    (∃ raw x, args.Gives name raw ∧ parseFinite? (trim raw.toList) = some x ∧
      args.number name = .ok (some x)) ∨
    ∃ raw, args.Gives name raw ∧ parseFinite? (trim raw.toList) = none ∧
      args.number name = .error (.notANumber name raw) := by
  by_cases unset : ∀ raw, ¬ args.Gives name raw
  · exact .inl ⟨unset, number_of_unset unset⟩
  · obtain ⟨raw, given⟩ := not_forall_not.mp unset
    cases read : parseFinite? (trim raw.toList) with
    | some x => exact .inr (.inl ⟨raw, x, given, read, number_of_read given read⟩)
    | none => exact .inr (.inr ⟨raw, given, read, number_of_refused given read⟩)

theorem number_eq_none_iff :
    args.number name = .ok none ↔ ∀ a, args.get? name = some a → a.value = "" := by
  rw [← forall_not_gives_iff]
  refine ⟨fun outcome => ?_, number_of_unset⟩
  rcases args.number_cases name with ⟨unset, -⟩ | ⟨_, _, _, _, found⟩ | ⟨_, _, _, found⟩
  · exact unset
  · cases outcome.symm.trans found
  · cases outcome.symm.trans found

theorem number_eq_some_iff : args.number name = .ok (some x) ↔
    ∃ raw n, args.Gives name raw ∧ Spells (trim raw.toList) n ∧ n.ConvertsTo x := by
  constructor
  · intro outcome
    rcases args.number_cases name with
      ⟨_, found⟩ | ⟨raw, x', given, read, found⟩ | ⟨_, _, _, found⟩
    · cases outcome.symm.trans found
    · obtain rfl := Option.some.inj (Except.ok.inj (outcome.symm.trans found))
      obtain ⟨n, spells, converts⟩ := parseFinite?_eq_some_iff.mp read
      exact ⟨raw, n, given, spells, converts⟩
    · cases outcome.symm.trans found
  · rintro ⟨raw, n, given, spells, converts⟩
    exact number_of_read given (parseFinite?_eq_some_iff.mpr ⟨n, spells, converts⟩)

theorem number_eq_error_iff : args.number name = .error e ↔
    ∃ raw, args.Gives name raw ∧ e = .notANumber name raw ∧
      ∀ n, Spells (trim raw.toList) n → overflow ≤ n.magnitude := by
  constructor
  · intro outcome
    rcases args.number_cases name with
      ⟨_, found⟩ | ⟨_, _, _, _, found⟩ | ⟨raw, given, refused, found⟩
    · cases outcome.symm.trans found
    · cases outcome.symm.trans found
    · obtain rfl := Except.error.inj (outcome.symm.trans found)
      exact ⟨raw, given, rfl, parseFinite?_eq_none_iff.mp refused⟩
  · rintro ⟨raw, given, rfl, large⟩
    exact number_of_refused given (parseFinite?_eq_none_iff.mpr large)

/-! ## Values that are refused -/

theorem number_of_foreign (given : args.Gives name raw)
    (foreign : Blank raw.toList ∨ ∃ c ∈ trim raw.toList, ¬ InNumeral c) :
    args.number name = .error (.notANumber name raw) := by
  refine number_eq_error_iff.mpr ⟨raw, given, rfl, fun n spells => ?_⟩
  obtain ⟨some, inside⟩ := spells.characters
  rcases foreign with blank | ⟨c, there, outside⟩
  · exact absurd (trim_of_blank blank) some
  · exact absurd (inside c there) outside

/-! ## White space -/

/-- White space around a value that is not empty changes neither whether it is a number nor which
number it is. -/
theorem number_padded {before after : List Char} {a : Argument} (given : args.Gives name raw)
    (blank : Blank before) (blank' : Blank after) (there : args'.get? name = some a)
    (padded : a.value.toList = before ++ raw.toList ++ after) :
    args'.number name = .ok (some x) ↔ args.number name = .ok (some x) := by
  have filled : a.value ≠ "" := by
    intro empty
    rw [empty, String.toList_empty, eq_comm, List.append_eq_nil_iff,
      List.append_eq_nil_iff] at padded
    exact given.1 (String.toList_eq_nil_iff.mp padded.1.2)
  have given' : args'.Gives name a.value := ⟨filled, a, there, rfl⟩
  have same : trim a.value.toList = trim raw.toList := by
    rw [padded, trim_padded blank blank']
  simp only [number_eq_some_iff]
  constructor
  · rintro ⟨raw', n, found, spells, converts⟩
    obtain rfl := gives_unique given' found
    exact ⟨raw, n, given, same ▸ spells, converts⟩
  · rintro ⟨raw', n, found, spells, converts⟩
    obtain rfl := gives_unique given found
    exact ⟨a.value, n, given', same ▸ spells, converts⟩

/-! ## Those who read numbers -/

theorem isFinite_of_number (outcome : args.number name = .ok (some x)) : x.isFinite = true := by
  obtain ⟨raw, n, given, spells, converts⟩ := number_eq_some_iff.mp outcome
  exact converts.finite

/-- A magnitude is made of one number that was read. -/
theorem number_of_magnitude {m : Magnitude Float} (sized : args.magnitude = .ok m) :
    ∃ x, m = .amount x ∧ args.number "Amount" = .ok (some x) ∨
      m = .percent x ∧ args.number "Percent" = .ok (some x) := by
  rw [magnitude] at sized
  cases amount : args.number "Amount" with
  | error e =>
    rw [amount] at sized
    cases sized
  | ok x =>
    rw [amount] at sized
    cases x with
    | some x =>
      cases sized
      exact ⟨x, .inl ⟨rfl, rfl⟩⟩
    | none =>
      cases percent : args.number "Percent" with
      | error e =>
        rw [percent] at sized
        cases sized
      | ok y =>
        rw [percent] at sized
        cases y with
        | some y =>
          cases sized
          exact ⟨y, .inr ⟨rfl, rfl⟩⟩
        | none => cases sized

end Arguments

/-- The test on the number of cities compares with a number that was read. -/
theorem World.test_cities (w : World) (player : PlayerId) (s : Subject) (args : Arguments) :
    w.test player s args "REQUIREMENT_PLAYER_HAS_AT_LEAST_NUM_CITIES" = true ↔
      ∃ x, args.number "Amount" = .ok (some x) ∧
        x ≤ Float.ofNat (w.citiesOf (testedPlayer player s)).length := by
  change w.hasCities (testedPlayer player s) args = true ↔ _
  rw [hasCities]
  cases args.number "Amount" with
  | error e => simp
  | ok y =>
    cases y with
    | none => simp
    | some y => simp

namespace Arguments

/-- No number is read exactly where nothing is set, and a number exactly where the trimmed value
spells a numeral that converts to it. Every other value is refused with its name and as it was
written: one whose numerals are all too large, so also one of white space alone and one with a
character that no numeral has. White space around a value is not seen, and no magnitude and no
test on the number of cities ever gets a number that is not finite. -/
theorem number_accepts_numerals (args : Arguments) (name : String) :
    (args.number name = .ok none ↔ ∀ a, args.get? name = some a → a.value = "") ∧
    (∀ x, args.number name = .ok (some x) ↔
      ∃ raw n, args.Gives name raw ∧ Spells (trim raw.toList) n ∧ n.ConvertsTo x) ∧
    (∀ e, args.number name = .error e ↔
      ∃ raw, args.Gives name raw ∧ e = .notANumber name raw ∧
        ∀ n, Spells (trim raw.toList) n → overflow ≤ n.magnitude) ∧
    (∀ raw, args.Gives name raw →
      (Blank raw.toList ∨ ∃ c ∈ trim raw.toList, ¬ InNumeral c) →
      args.number name = .error (.notANumber name raw)) ∧
    (∀ raw before after (args' : Arguments) a, args.Gives name raw → Blank before → Blank after →
      args'.get? name = some a → a.value.toList = before ++ raw.toList ++ after →
      ∀ x, args'.number name = .ok (some x) ↔ args.number name = .ok (some x)) ∧
    (∀ m, args.magnitude = .ok m → ∃ x, x.isFinite = true ∧
      (m = .amount x ∧ args.number "Amount" = .ok (some x) ∨
        m = .percent x ∧ args.number "Percent" = .ok (some x))) ∧
    ∀ (w : World) player s,
      w.test player s args "REQUIREMENT_PLAYER_HAS_AT_LEAST_NUM_CITIES" = true ↔
        ∃ x, args.number "Amount" = .ok (some x) ∧ x.isFinite = true ∧
          x ≤ Float.ofNat (w.citiesOf (World.testedPlayer player s)).length := by
  refine ⟨number_eq_none_iff, fun _ => number_eq_some_iff, fun _ => number_eq_error_iff,
    fun _ => number_of_foreign, ?_, ?_, ?_⟩
  · intro raw before after args' a given blank blank' there padded x
    exact number_padded given blank blank' there padded
  · intro m sized
    obtain ⟨x, read⟩ := number_of_magnitude sized
    have finite : x.isFinite = true :=
      read.elim (fun amount => isFinite_of_number amount.2) fun percent =>
        isFinite_of_number percent.2
    exact ⟨x, finite, read⟩
  · intro w player s
    rw [World.test_cities]
    constructor
    · rintro ⟨x, read, enough⟩
      exact ⟨x, read, isFinite_of_number read, enough⟩
    · rintro ⟨x, read, -, enough⟩
      exact ⟨x, read, enough⟩

end Arguments

namespace Harbour

/-- Arguments with a number in exponent form, a number that is too large and a name of infinity. -/
def dues : Arguments :=
  ((Arguments.set {} "Amount" "+.5e2").set "Percent" "1e400").set "Limit" "inf"

/-- The first is read as fifty, also with white space around it; the others are refused. -/
theorem number_accepts_numerals_harbour :
    (∃ raw n, dues.Gives "Amount" raw ∧ Spells (trim raw.toList) n ∧ n.ConvertsTo 50) ∧
    (dues.set "Amount" "\t+.5e2 \u2009").number "Amount" = .ok (some 50) ∧
    (∃ raw, dues.Gives "Percent" raw ∧
      ∀ n, Spells (trim raw.toList) n → overflow ≤ n.magnitude) ∧
    dues.number "Limit" = .error (.notANumber "Limit" "inf") ∧
    (∃ x, x.isFinite = true ∧ dues.magnitude = .ok (.amount x)) := by
  have fifty : dues.number "Amount" = .ok (some 50) := by decide +kernel
  have large : dues.number "Percent" = .error (.notANumber "Percent" "1e400") := by
    decide +kernel
  have sized : dues.magnitude = .ok (.amount 50) := by decide +kernel
  have given {name raw : String} (value : dues.value? name = some raw) : dues.Gives name raw :=
    Arguments.value?_eq_some_iff.mp value
  have amount := Arguments.number_accepts_numerals dues "Amount"
  have percent := Arguments.number_accepts_numerals dues "Percent"
  have limit := Arguments.number_accepts_numerals dues "Limit"
  refine ⟨(amount.2.1 50).mp fifty, ?_, ?_, ?_, ?_⟩
  · refine (amount.2.2.2.2.1 "+.5e2" ['\t'] [' ', '\u2009'] _ _ (given rfl) (by decide)
      (by decide) (Arguments.get?_set_self ..) (by decide) 50).mpr fifty
  · obtain ⟨raw, value, -, out⟩ := (percent.2.2.1 _).mp large
    exact ⟨raw, value, out⟩
  · exact limit.2.2.2.1 "inf" (given rfl) (.inr ⟨'n', by decide, by decide⟩)
  · obtain ⟨x, finite, read⟩ := amount.2.2.2.2.2.1 _ sized
    obtain ⟨same, -⟩ | ⟨other, -⟩ := read
    · exact ⟨x, finite, same ▸ sized⟩
    · cases other

end Harbour

end YieldRules
