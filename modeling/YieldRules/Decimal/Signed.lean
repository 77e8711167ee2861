import YieldRules.Decimal.Binary

/-!
# Signed amounts

An amount in a report always has a sign and two decimal places. The exact
binary value is rounded, a half to the even neighbour. The sign is that of the
float itself, so a small negative amount is `-0.00`. An amount that is not a
number has no sign.
-/

namespace YieldRules.Decimal

/-- Hundredths as a text with two places. -/
def hundredths (n : Nat) : List Char :=
  let ds := digits n
  let padded := List.replicate (3 - ds.length) '0' ++ ds
  padded.take (padded.length - 2) ++ '.' :: padded.drop (padded.length - 2)

/-- The exact value in hundredths. -/
def Binary.inHundredths (x : Binary) : Nat :=
  let (num, den) := x.fraction
  roundHalfEven (100 * num) den

/-- The text of a signed amount with two places. -/
def signed (x : Float) : String :=
  if x.isNaN then "NaN"
  else
    let magnitude :=
      if x.isInf then ['i', 'n', 'f'] else hundredths (Binary.ofBits x.toBits).inHundredths
    String.ofList ((if signBit x then '-' else '+') :: magnitude)

end YieldRules.Decimal
