import YieldRules.Decimal.Binary

/-!
# Shortest decimal texts

The fewest digits that still identify a float, and among those the nearest to
it. The text is positional whatever the size of the number: a whole number has
no point, and no text has an exponent.
-/

namespace YieldRules.Decimal

/-- The least power of ten above a positive fraction. -/
def scaleOf (num den : Nat) : Int :=
  if den ≤ num then
    (digits (num / den)).length
  else
    1 - ((digits ((den - 1) / num)).length : Int)

/-- Compare `a * 10 ^ i` with a fraction. -/
def compareScaled (a : Nat) (i : Int) (num den : Nat) : Ordering :=
  compare (a * Nat.pow 10 i.toNat * den) (num * Nat.pow 10 (-i).toNat)

/-- A decimal lies among the reals that round to a float. The ends of that interval belong to it
when the significand is even. -/
def Binary.readsBack (x : Binary) (a : Nat) (i : Int) : Bool :=
  let up := Nat.pow 2 x.exponent.toNat
  let den := 4 * Nat.pow 2 (-x.exponent).toNat
  let low := compareScaled a i ((4 * x.significand - if x.narrowBelow then 1 else 2) * up) den
  let high := compareScaled a i ((4 * x.significand + 2) * up) den
  let closed := x.significand % 2 = 0
  (low = .gt ∨ closed ∧ low = .eq) ∧ (high = .lt ∨ closed ∧ high = .eq)

/-- The best decimal with a given power of ten as its unit, if one of the two neighbours of the
float on that grid reads back. Of two the nearer is taken, and the upper one on a tie. -/
def Binary.onGrid? (x : Binary) (i : Int) : Option (Nat × Int) :=
  let (num, den) := x.fraction
  let below := num * Nat.pow 10 (-i).toNat / (den * Nat.pow 10 i.toNat)
  match x.readsBack below i, x.readsBack (below + 1) i with
  | true, true =>
    if compareScaled (2 * below + 1) i (2 * num) den = .gt then some (below, i)
    else some (below + 1, i)
  | true, false => some (below, i)
  | false, true => some (below + 1, i)
  | false, false => none

/-- The digits of a positive magnitude and their unit; seventeen digits always identify a float. -/
def Binary.shortest (x : Binary) : Nat × Int :=
  let (num, den) := x.fraction
  let scale := scaleOf num den
  ((List.range 17).findSome? fun (n : Nat) => x.onGrid? (scale - (n + 1 : Int))).getD
    (x.significand, x.exponent)

/-- The positional text of `a * 10 ^ i`. -/
def positional (a : Nat) (i : Int) : List Char :=
  let zeros := (digits a).reverse.takeWhile (· == '0')
  let ds := (digits a).take ((digits a).length - zeros.length)
  match i + zeros.length with
  | .ofNat n => ds ++ List.replicate n '0'
  | .negSucc n =>
    let places := n + 1
    if places < ds.length then
      ds.take (ds.length - places) ++ '.' :: ds.drop (ds.length - places)
    else
      '0' :: '.' :: List.replicate (places - ds.length) '0' ++ ds

/-- The shortest positional text that identifies a float. -/
def shortest (x : Float) : String :=
  if x.isNaN then "NaN"
  else
    let magnitude :=
      if x.isInf then ['i', 'n', 'f']
      else
        let b := Binary.ofBits x.toBits
        if b.significand = 0 then ['0'] else positional b.shortest.1 b.shortest.2
    String.ofList (if signBit x then '-' :: magnitude else magnitude)

end YieldRules.Decimal
