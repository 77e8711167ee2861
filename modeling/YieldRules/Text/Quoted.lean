import YieldRules.Text.Visible

/-!
# Quoted text

A text between double quotes, for error messages and listings. The quote and
the backslash are escaped, four control characters have a letter of their own,
and every other character without a visible form of its own is written as its
code point in lowercase hexadecimal digits.
-/

namespace YieldRules.Text

/-- A number in lowercase hexadecimal digits without padding. -/
def hexDigits (n : Nat) : List Char :=
  Nat.toDigits 16 n

/-- The written form of one character between quotes. -/
def escape (c : Char) : List Char :=
  match c with
  | '"' => ['\\', '"']
  | '\\' => ['\\', '\\']
  | '\t' => ['\\', 't']
  | '\r' => ['\\', 'r']
  | '\n' => ['\\', 'n']
  | '\x00' => ['\\', '0']
  | c => if isVisible c then [c] else '\\' :: 'u' :: '\x7b' :: hexDigits c.toNat ++ ['\x7d']

/-- A text between double quotes. -/
def quoted (s : String) : String :=
  String.ofList ('"' :: s.toList.flatMap escape ++ ['"'])

end YieldRules.Text
