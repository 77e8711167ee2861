import YieldRules.Text.Digit

/-!
# Decimal numerals

A numeral is an optional sign, digits with an optional point, at least one
digit on one of its sides, and an optional exponent of ten. Only the ten ASCII
digits count. Its value is the nearest float, so a numeral that is too large
is infinite and one that is too small is a zero that keeps its sign.
-/

namespace YieldRules.Decimal

open Text

/-- A numeral stands for `digits * 10 ^ exponent`, negated when `negative`. -/
structure Numeral where
  negative : Bool
  digits : Nat
  exponent : Int
  deriving DecidableEq

/-- Take an optional sign off a text; the flag is set for a minus. -/
def takeSign : List Char → Bool × List Char
  | '-' :: rest => (true, rest)
  | '+' :: rest => (false, rest)
  | cs => (false, cs)

/-- A signed whole number that fills the text. -/
def signedWhole? (cs : List Char) : Option Int :=
  let (negative, rest) := takeSign cs
  if rest ≠ [] ∧ rest.all isDigit then
    some (if negative then -(digitsValue rest : Int) else digitsValue rest)
  else
    none

/-- The exponent of ten written at the end of a numeral; none written counts as zero. -/
def exponentPart? : List Char → Option Int
  | [] => some 0
  | c :: rest => if c = 'e' ∨ c = 'E' then signedWhole? rest else none

/-- The digits after an optional point, and what follows them. -/
def fractionPart : List Char → List Char × List Char
  | '.' :: rest => rest.span isDigit
  | cs => ([], cs)

/-- Read a numeral that fills the text. -/
def Numeral.parse? (cs : List Char) : Option Numeral := do
  let (negative, unsigned) := takeSign cs
  let (whole, afterWhole) := unsigned.span isDigit
  let (fraction, afterFraction) := fractionPart afterWhole
  let exponent ← exponentPart? afterFraction
  if whole = [] ∧ fraction = [] then
    none
  else
    some ⟨negative, digitsValue (whole ++ fraction), exponent - fraction.length⟩

/-- An exponent brought so close to zero that powers of ten stay small. Beyond these limits the
value is infinite or zero already. -/
def Numeral.boundedExponent (n : Numeral) : Int :=
  max (-((Nat.toDigits 10 n.digits).length + 400 : Int)) (min n.exponent 400)

/-- The float nearest to the value of a numeral. -/
def Numeral.toFloat (n : Numeral) : Float :=
  let e := n.boundedExponent
  let magnitude := Float.ofScientific n.digits (e < 0) e.natAbs
  if n.negative then -magnitude else magnitude

/-- The float that a text stands for, when it is a numeral of finite value. -/
def parseFinite? (cs : List Char) : Option Float := do
  let n ← Numeral.parse? cs
  if n.toFloat.isFinite then some n.toFloat else none

end YieldRules.Decimal
