import YieldRules.Decimal.Numeral

/-!
# Bare scalars

What text without quotes stands for when a field asks for a value of a certain
type. Whole numbers are decimal without leading zeros, or hexadecimal, octal
or binary behind `0x`, `0o` or `0b`.
-/

namespace YieldRules.Bare

open Text

/-- An empty scalar, `~` and three spellings of `null` stand for an absent value. -/
def isAbsent (s : String) : Bool :=
  s == "" || s == "~" || s == "null" || s == "Null" || s == "NULL"

def bool? (s : String) : Option Bool :=
  if s = "true" ∨ s = "True" ∨ s = "TRUE" then some true
  else if s = "false" ∨ s = "False" ∨ s = "FALSE" then some false
  else none

/-- A whole number without a sign. -/
def magnitude? : List Char → Option Nat
  | '0' :: 'x' :: cs => digitsIn? 16 cs
  | '0' :: 'o' :: cs => digitsIn? 8 cs
  | '0' :: 'b' :: cs => digitsIn? 2 cs
  | ['0'] => some 0
  | '0' :: _ => none
  | cs => digitsIn? 10 cs

/-- A whole number that may have a plus but no minus. -/
def nat? (s : String) : Option Nat :=
  match s.toList with
  | '+' :: cs => magnitude? cs
  | cs => magnitude? cs

/-- A whole number with an optional sign. -/
def int? (s : String) : Option Int :=
  match s.toList with
  | '-' :: cs => (magnitude? cs).map fun n => -(n : Int)
  | '+' :: cs => (magnitude? cs).map fun n => (n : Int)
  | cs => (magnitude? cs).map fun n => (n : Int)

/-- A decimal numeral of finite value, or one of the words for infinity and not-a-number. -/
def float? (s : String) : Option Float :=
  let unsigned :=
    match s.toList with
    | '+' :: cs => String.ofList cs
    | _ => s
  if unsigned = ".inf" ∨ unsigned = ".Inf" ∨ unsigned = ".INF" then some (1 / 0)
  else if s = "-.inf" ∨ s = "-.Inf" ∨ s = "-.INF" then some (-1 / 0)
  else if s = ".nan" ∨ s = ".NaN" ∨ s = ".NAN" then some (0 / 0)
  else Decimal.parseFinite? s.toList

end YieldRules.Bare
