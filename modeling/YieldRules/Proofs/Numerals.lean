import YieldRules.Decimal.Numeral
import Mathlib.Data.List.TakeDrop
import Mathlib.Data.List.TakeWhile

/-!
# The grammar of numerals

What a numeral looks like, said without the reader: the parts of a text, one after
the other. The reader takes a text exactly when it is made of such parts, and gives
the numeral that they spell.
-/

namespace YieldRules.Decimal

open Text

/-- ASCII digits and nothing else. -/
def Digits (cs : List Char) : Prop :=
  ∀ c ∈ cs, isDigit c = true

/-- The texts of an optional sign; the flag is set for a minus. -/
inductive SignText : Bool → List Char → Prop where
  | none : SignText false []
  | plus : SignText false ['+']
  | minus : SignText true ['-']

/-- The texts of an optional point and the digits behind it. -/
inductive FractionText : List Char → List Char → Prop where
  | none : FractionText [] []
  | point {digits : List Char} (row : Digits digits) : FractionText digits ('.' :: digits)

/-- A number of decimal digits with a sign. -/
def signedValue (negative : Bool) (digits : List Char) : Int :=
  if negative then -(digitsValue digits : Int) else digitsValue digits

/-- The texts of an optional exponent. -/
inductive ExponentText : Int → List Char → Prop where
  | none : ExponentText 0 []
  | written {mark : Char} {negative : Bool} {sign digits : List Char}
    (marks : mark = 'e' ∨ mark = 'E') (signed : SignText negative sign) (some : digits ≠ [])
    (row : Digits digits) : ExponentText (signedValue negative digits) (mark :: (sign ++ digits))

/-- A text spells a numeral: an optional sign, digits with an optional point, at least one of them
on one side of it, and an optional exponent. The digits behind the point lower the exponent. -/
inductive Spells : List Char → Numeral → Prop where
  | parts {negative : Bool} {exponent : Int} {sign whole fraction point mark : List Char}
    (signed : SignText negative sign) (row : Digits whole) (pointed : FractionText fraction point)
    (some : whole ≠ [] ∨ fraction ≠ []) (marked : ExponentText exponent mark) :
    Spells (sign ++ (whole ++ (point ++ mark)))
      ⟨negative, digitsValue (whole ++ fraction), exponent - fraction.length⟩

variable {cs rest sign digits whole fraction point mark : List Char} {negative : Bool}
variable {exponent : Int} {n : Numeral}

/-! ## Rows of digits -/

/-- No digit stands at the front. -/
def StartsOff (cs : List Char) : Prop :=
  ∀ c, cs.head? = some c → isDigit c = false

theorem span_digits (row : Digits digits) (off : StartsOff rest) :
    (digits ++ rest).span isDigit = (digits, rest) := by
  rw [List.span_eq_takeWhile_dropWhile, List.takeWhile_append_of_pos row,
    List.dropWhile_append_of_pos row]
  cases rest with
  | nil => simp
  | cons c rest =>
    have stop : isDigit c = false := off c rfl
    simp [stop]

theorem digits_of_span (spanned : cs.span isDigit = (digits, rest)) :
    Digits digits ∧ cs = digits ++ rest := by
  rw [List.span_eq_takeWhile_dropWhile] at spanned
  obtain ⟨rfl, rfl⟩ := Prod.mk.inj spanned
  exact ⟨fun c there => List.mem_takeWhile_imp there, List.takeWhile_append_dropWhile.symm⟩

/-! ## The parts and their readers -/

/-- No sign stands at the front. -/
def Unsigned (cs : List Char) : Prop :=
  ∀ c, cs.head? = some c → c ≠ '-' ∧ c ≠ '+'

theorem takeSign_eq (signed : SignText negative sign) (unsigned : Unsigned rest) :
    takeSign (sign ++ rest) = (negative, rest) := by
  cases signed with
  | plus => rfl
  | minus => rfl
  | none =>
    cases rest with
    | nil => rfl
    | cons c rest =>
      obtain ⟨minus, plus⟩ := unsigned c rfl
      rw [List.nil_append, takeSign]
      · rintro r same
        exact minus (List.cons.inj same).1
      · rintro r same
        exact plus (List.cons.inj same).1

theorem signText_of_takeSign (taken : takeSign cs = (negative, rest)) :
    ∃ sign, SignText negative sign ∧ cs = sign ++ rest := by
  rw [takeSign.eq_def] at taken
  split at taken
  · obtain ⟨rfl, rfl⟩ := Prod.mk.inj taken
    exact ⟨_, .minus, rfl⟩
  · obtain ⟨rfl, rfl⟩ := Prod.mk.inj taken
    exact ⟨_, .plus, rfl⟩
  · obtain ⟨rfl, rfl⟩ := Prod.mk.inj taken
    exact ⟨_, .none, rfl⟩

theorem unsigned_of_digits (row : Digits digits) (some : digits ≠ []) :
    Unsigned (digits ++ rest) := by
  cases digits with
  | nil => exact False.elim (some rfl)
  | cons d digits =>
    intro c first
    obtain rfl : d = c := by simpa using first
    have digit := row d List.mem_cons_self
    constructor
    · rintro rfl
      cases digit
    · rintro rfl
      cases digit

theorem signedWhole?_eq (signed : SignText negative sign) (some : digits ≠ [])
    (row : Digits digits) :
    signedWhole? (sign ++ digits) = .some (signedValue negative digits) := by
  have unsigned : Unsigned (digits ++ []) := unsigned_of_digits row some
  rw [List.append_nil] at unsigned
  have all : digits.all isDigit = true := List.all_eq_true.mpr row
  simp only [signedWhole?, takeSign_eq signed unsigned, signedValue, ne_eq, some,
    not_false_eq_true, all, and_self, if_true]

theorem signText_of_signedWhole? (read : signedWhole? cs = some exponent) :
    ∃ negative sign digits, SignText negative sign ∧ digits ≠ [] ∧ Digits digits ∧
      cs = sign ++ digits ∧ exponent = signedValue negative digits := by
  cases taken : takeSign cs with
  | mk negative digits =>
    obtain ⟨sign, signed, split⟩ := signText_of_takeSign taken
    simp only [signedWhole?, taken, Option.ite_none_right_eq_some, Option.some.injEq] at read
    obtain ⟨⟨some, all⟩, value⟩ := read
    exact ⟨negative, sign, digits, signed, some, List.all_eq_true.mp all, split, value.symm⟩

theorem exponentPart?_eq_some_iff :
    exponentPart? cs = some exponent ↔ ExponentText exponent cs := by
  constructor
  · intro read
    cases cs with
    | nil =>
      obtain rfl : 0 = exponent := Option.some.inj read
      exact .none
    | cons c cs =>
      simp only [exponentPart?, Option.ite_none_right_eq_some] at read
      obtain ⟨marks, whole⟩ := read
      obtain ⟨negative, sign, digits, signed, some, row, rfl, rfl⟩ :=
        signText_of_signedWhole? whole
      exact .written marks signed some row
  · intro marked
    cases marked with
    | none => rfl
    | written marks signed some row =>
      rw [exponentPart?, if_pos marks, signedWhole?_eq signed some row]

/-- An exponent starts with its mark. -/
theorem ExponentText.starts (marked : ExponentText exponent mark) :
    ∀ c, mark.head? = some c → c = 'e' ∨ c = 'E' := by
  cases marked with
  | none =>
    intro c first
    cases first
  | written marks signed some row =>
    intro c first
    obtain rfl := Option.some.inj first
    exact marks

theorem ExponentText.startsOff (marked : ExponentText exponent mark) : StartsOff mark := by
  intro c first
  rcases marked.starts c first with rfl | rfl
  · rfl
  · rfl

theorem fractionPart_eq (pointed : FractionText fraction point)
    (marked : ExponentText exponent mark) :
    fractionPart (point ++ mark) = (fraction, mark) := by
  cases pointed with
  | point row => exact span_digits row marked.startsOff
  | none =>
    rw [List.nil_append, fractionPart]
    rintro r rfl
    rcases marked.starts '.' rfl with same | same
    · cases same
    · cases same

theorem fractionText_of_fractionPart (read : fractionPart cs = (fraction, rest)) :
    ∃ point, FractionText fraction point ∧ cs = point ++ rest := by
  rw [fractionPart.eq_def] at read
  split at read
  · obtain ⟨row, rfl⟩ := digits_of_span read
    exact ⟨_, .point row, rfl⟩
  · obtain ⟨rfl, rfl⟩ := Prod.mk.inj read
    exact ⟨_, .none, rfl⟩

/-! ## The whole numeral -/

theorem unsigned_of_parts (row : Digits whole) (pointed : FractionText fraction point)
    (some : whole ≠ [] ∨ fraction ≠ []) : Unsigned (whole ++ (point ++ mark)) := by
  by_cases empty : whole = []
  · subst empty
    cases pointed with
    | none => exact False.elim (some.elim (fun h => h rfl) fun h => h rfl)
    | point _ =>
      intro c first
      obtain rfl : '.' = c := by simpa using first
      decide
  · exact unsigned_of_digits row empty

theorem startsOff_of_parts (pointed : FractionText fraction point)
    (marked : ExponentText exponent mark) : StartsOff (point ++ mark) := by
  cases pointed with
  | none => exact marked.startsOff
  | point _ =>
    intro c first
    obtain rfl : '.' = c := by simpa using first
    rfl

theorem parse?_of_spells (spells : Spells cs n) : Numeral.parse? cs = some n := by
  obtain ⟨signed, row, pointed, some, marked⟩ := spells
  have filled : ¬ (_ = [] ∧ _ = []) := not_and_or.mpr some
  simp only [Numeral.parse?, takeSign_eq signed (unsigned_of_parts row pointed some),
    span_digits row (startsOff_of_parts pointed marked), fractionPart_eq pointed marked,
    exponentPart?_eq_some_iff.mpr marked, Option.bind_eq_bind, Option.bind_some, if_neg filled]

theorem spells_of_parse? (read : Numeral.parse? cs = some n) : Spells cs n := by
  cases taken : takeSign cs with
  | mk negative unsigned =>
    cases spanned : unsigned.span isDigit with
    | mk whole afterWhole =>
      cases divided : fractionPart afterWhole with
      | mk fraction afterFraction =>
        simp only [Numeral.parse?, taken, spanned, divided, Option.bind_eq_bind,
          Option.bind_eq_some_iff, Option.ite_none_left_eq_some, not_and_or,
          Option.some.injEq] at read
        obtain ⟨exponent, marked, some, rfl⟩ := read
        obtain ⟨sign, signed, rfl⟩ := signText_of_takeSign taken
        obtain ⟨row, rfl⟩ := digits_of_span spanned
        obtain ⟨point, pointed, rfl⟩ := fractionText_of_fractionPart divided
        exact .parts signed row pointed some (exponentPart?_eq_some_iff.mp marked)

/-- A text is read as a numeral exactly when it spells that numeral. -/
theorem parse?_eq_some_iff : Numeral.parse? cs = some n ↔ Spells cs n :=
  ⟨spells_of_parse?, parse?_of_spells⟩

/-! ## Characters -/

/-- The characters of numerals. -/
def InNumeral (c : Char) : Prop :=
  isDigit c = true ∨ c ∈ ['+', '-', '.', 'e', 'E']

instance (c : Char) : Decidable (InNumeral c) :=
  inferInstanceAs (Decidable (_ ∨ _))

theorem SignText.characters (signed : SignText negative sign) : ∀ c ∈ sign, InNumeral c := by
  cases signed with
  | none => simp
  | plus => simp [InNumeral]
  | minus => simp [InNumeral]

theorem FractionText.characters (pointed : FractionText fraction point) :
    ∀ c ∈ point, InNumeral c := by
  cases pointed with
  | none => simp
  | point row =>
    intro c there
    rcases List.mem_cons.mp there with rfl | there
    · exact .inr (by decide)
    · exact .inl (row c there)

theorem ExponentText.characters (marked : ExponentText exponent mark) :
    ∀ c ∈ mark, InNumeral c := by
  cases marked with
  | none => simp
  | written marks signed some row =>
    intro c there
    rcases List.mem_cons.mp there with rfl | there
    · rcases marks with rfl | rfl
      · exact .inr (by decide)
      · exact .inr (by decide)
    · rcases List.mem_append.mp there with there | there
      · exact signed.characters c there
      · exact .inl (row c there)

/-- A numeral is not empty and has no characters other than those of numerals. -/
theorem Spells.characters (spells : Spells cs n) : cs ≠ [] ∧ ∀ c ∈ cs, InNumeral c := by
  obtain ⟨signed, row, pointed, some, marked⟩ := spells
  constructor
  · intro empty
    simp only [List.append_eq_nil_iff] at empty
    obtain ⟨-, rfl, rfl, -⟩ := empty
    cases pointed with
    | none => exact some.elim (fun h => h rfl) fun h => h rfl
  · intro c there
    simp only [List.mem_append] at there
    rcases there with there | there | there | there
    · exact signed.characters c there
    · exact .inl (row c there)
    · exact pointed.characters c there
    · exact marked.characters c there

end YieldRules.Decimal
