import YieldRules.Document.Node
import YieldRules.Decimal.Numeral

/-!
# Reading JSON

One JSON value that fills a text, as a document node. A number without a
fraction or an exponent is a whole number when it fits into 64 bits; every
other number is the float nearest to it, and so is `-0`.
-/

namespace YieldRules.Json

open Text Decimal

def isSpace (c : Char) : Bool :=
  c == ' ' || c == '\t' || c == '\n' || c == '\r'

def skipSpace (cs : List Char) : List Char :=
  cs.dropWhile isSpace

/-- The character that a letter behind a backslash stands for. -/
def shortEscape? : Char → Option Char
  | '"' => some '"'
  | '\\' => some '\\'
  | '/' => some '/'
  | 'b' => some '\x08'
  | 'f' => some '\x0c'
  | 'n' => some '\n'
  | 'r' => some '\r'
  | 't' => some '\t'
  | _ => none

def pushFront (c : Char) (r : List Char × List Char) : List Char × List Char :=
  (c :: r.1, r.2)

/-- The text up to the closing quote, and what follows it. -/
def readText : List Char → Option (List Char × List Char)
  | [] => none
  | '"' :: rest => some ([], rest)
  | '\\' :: 'u' :: a :: b :: c :: d :: rest => do
    let high ← digitsIn? 16 [a, b, c, d]
    if 0xD800 ≤ high ∧ high < 0xDC00 then
      match rest with
      | '\\' :: 'u' :: e :: f :: g :: h :: rest => do
        let low ← digitsIn? 16 [e, f, g, h]
        if 0xDC00 ≤ low ∧ low < 0xE000 then
          let r ← readText rest
          return pushFront (Char.ofNat (0x10000 + (high - 0xD800) * 0x400 + (low - 0xDC00))) r
        else
          none
      | _ => none
    else if 0xDC00 ≤ high ∧ high < 0xE000 then
      none
    else
      let r ← readText rest
      return pushFront (Char.ofNat high) r
  | '\\' :: c :: rest => do
    let c ← shortEscape? c
    let r ← readText rest
    return pushFront c r
  | c :: rest => do
    if c.toNat < 0x20 then none
    else
      let r ← readText rest
      return pushFront c r

/-- The digits before the point: a zero stands alone. -/
def readWhole : List Char → Option (List Char × List Char)
  | '0' :: rest => some (['0'], rest)
  | cs => if (cs.takeWhile isDigit).isEmpty then none else some (cs.span isDigit)

/-- A fraction with its point, if one follows. -/
def readFraction : List Char → Option (List Char × List Char)
  | '.' :: rest =>
    if (rest.takeWhile isDigit).isEmpty then none
    else some ('.' :: rest.takeWhile isDigit, rest.dropWhile isDigit)
  | cs => some ([], cs)

/-- An exponent with its letter, if one follows. -/
def readExponent : List Char → Option (List Char × List Char)
  | [] => some ([], [])
  | e :: rest =>
    if e = 'e' ∨ e = 'E' then
      let (sign, unsigned) :=
        match rest with
        | '+' :: ds => (['+'], ds)
        | '-' :: ds => (['-'], ds)
        | ds => ([], ds)
      if (unsigned.takeWhile isDigit).isEmpty then none
      else some (e :: sign ++ unsigned.takeWhile isDigit, unsigned.dropWhile isDigit)
    else
      some ([], e :: rest)

/-- The node of a number given by its parts. -/
def numberNode? (negative : Bool) (whole fraction exponent : List Char) : Option Node :=
  let n := digitsValue whole
  if fraction = [] ∧ exponent = [] ∧ negative = false ∧ n < Nat.pow 2 64 then
    some (.int n)
  else if fraction = [] ∧ exponent = [] ∧ negative = true ∧ 0 < n ∧ n ≤ Nat.pow 2 63 then
    some (.int (-n))
  else
    let sign := if negative then ['-'] else []
    (parseFinite? (sign ++ whole ++ fraction ++ exponent)).map .float

def readNumber (cs : List Char) : Option (Node × List Char) := do
  let (negative, unsigned) :=
    match cs with
    | '-' :: rest => (true, rest)
    | cs => (false, cs)
  let (whole, rest) ← readWhole unsigned
  let (fraction, rest) ← readFraction rest
  let (exponent, rest) ← readExponent rest
  return (← numberNode? negative whole fraction exponent, rest)

mutual

/-- A value and what follows it. The number bounds how deep values nest and how many follow each
other. -/
def readValue : Nat → List Char → Option (Node × List Char)
  | 0, _ => none
  | fuel + 1, cs =>
    match skipSpace cs with
    | 'n' :: 'u' :: 'l' :: 'l' :: rest => some (.null, rest)
    | 't' :: 'r' :: 'u' :: 'e' :: rest => some (.bool true, rest)
    | 'f' :: 'a' :: 'l' :: 's' :: 'e' :: rest => some (.bool false, rest)
    | '"' :: rest => do
      let (s, rest) ← readText rest
      return (.text (String.ofList s), rest)
    | '[' :: rest =>
      match skipSpace rest with
      | ']' :: rest => some (.list [], rest)
      | rest => do
        let (items, rest) ← readItems fuel rest
        return (.list items, rest)
    | '{' :: rest =>
      match skipSpace rest with
      | '}' :: rest => some (.table [], rest)
      | rest => do
        let (members, rest) ← readMembers fuel rest
        return (.table members, rest)
    | cs => readNumber cs

/-- The items of a list up to its closing bracket. -/
def readItems : Nat → List Char → Option (List Node × List Char)
  | 0, _ => none
  | fuel + 1, cs => do
    let (item, rest) ← readValue fuel cs
    match skipSpace rest with
    | ',' :: rest =>
      let (items, rest) ← readItems fuel rest
      return (item :: items, rest)
    | ']' :: rest => return ([item], rest)
    | _ => none

/-- The members of a table up to its closing bracket. -/
def readMembers : Nat → List Char → Option (List (Key × Node) × List Char)
  | 0, _ => none
  | fuel + 1, cs => do
    match skipSpace cs with
    | '"' :: rest =>
      let (name, rest) ← readText rest
      match skipSpace rest with
      | ':' :: rest =>
        let (value, rest) ← readValue fuel rest
        let member := (Key.member (String.ofList name), value)
        match skipSpace rest with
        | ',' :: rest =>
          let (members, rest) ← readMembers fuel rest
          return (member :: members, rest)
        | '}' :: rest => return ([member], rest)
        | _ => none
      | _ => none
    | _ => none

end

/-- The value that fills a text. -/
def parse? (s : String) : Option Node := do
  let cs := s.toList
  let (value, rest) ← readValue (2 * cs.length + 1) cs
  if (skipSpace rest).isEmpty then some value else none

end YieldRules.Json
