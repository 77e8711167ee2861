/-!
# Binary values of floats

A finite float is `significand * 2 ^ exponent`. Everything here is exact
arithmetic on the bits, so decimal texts can be chosen without rounding twice.
-/

namespace YieldRules.Decimal

/-- The magnitude of a finite float, `significand * 2 ^ exponent`. -/
structure Binary where
  significand : Nat
  exponent : Int
  /-- The gap to the float below is half the gap to the float above. -/
  narrowBelow : Bool
  deriving DecidableEq

/-- The magnitude held by the bits of a finite float. -/
def Binary.ofBits (bits : UInt64) : Binary :=
  let scale := (bits >>> 52 &&& 0x7FF).toNat
  let fraction := (bits &&& 0xFFFFFFFFFFFFF).toNat
  if scale = 0 then
    ⟨fraction, -1074, false⟩
  else
    ⟨Nat.pow 2 52 + fraction, (scale : Int) - 1075, fraction == 0 && scale > 1⟩

/-- The sign bit of a float; it is set for `-0.0`. -/
def signBit (x : Float) : Bool :=
  x.toBits >>> 63 == 1

/-- The magnitude as a fraction of two natural numbers. -/
def Binary.fraction (x : Binary) : Nat × Nat :=
  (x.significand * Nat.pow 2 x.exponent.toNat, Nat.pow 2 (-x.exponent).toNat)

/-- Whole number to its decimal digits. -/
def digits (n : Nat) : List Char :=
  Nat.toDigits 10 n

/-- The quotient of two natural numbers, rounded to nearest, a half to the even neighbour. -/
def roundHalfEven (num den : Nat) : Nat :=
  let q := num / den
  match compare (2 * (num % den)) den with
  | .lt => q
  | .gt => q + 1
  | .eq => if q % 2 = 0 then q else q + 1

end YieldRules.Decimal
