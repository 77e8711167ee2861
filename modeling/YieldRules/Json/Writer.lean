import YieldRules.Document.Node
import YieldRules.Decimal.Shortest

/-!
# Writing JSON

A document node as JSON without spaces. Bare scalars are written as text. JSON
has no word for an infinite float or for one that is not a number, so these
are `null`. Controls and line separators are escaped, so a value is one line.
-/

namespace YieldRules.Json

def hexPadded (n : Nat) : List Char :=
  let ds := Nat.toDigits 16 n
  List.replicate (4 - ds.length) '0' ++ ds

/-- Controls and separators, all of which may end a line somewhere. -/
def endsLine (c : Char) : Bool :=
  c.toNat < 0x20 || (0x7F ≤ c.toNat && c.toNat ≤ 0x9F) || c == '\u2028' || c == '\u2029'

def escape (c : Char) : List Char :=
  match c with
  | '"' => ['\\', '"']
  | '\\' => ['\\', '\\']
  | c => if endsLine c then '\\' :: 'u' :: hexPadded c.toNat else [c]

def text (s : String) : String :=
  "\"" ++ String.ofList (s.toList.flatMap escape) ++ "\""

/-- The name that a key has in JSON. -/
def keyName (k : Key) : String :=
  k.text?.getD ""

mutual

def render : Node → String
  | .null => "null"
  | .bool b => if b then "true" else "false"
  | .int n => toString n
  | .float x => if x.isFinite then Decimal.shortest x else "null"
  | .text s => text s
  | .bare s => text s
  | .list items | .series items => "[" ++ ",".intercalate (renderItems items) ++ "]"
  | .table entries => "\x7b" ++ ",".intercalate (renderEntries entries) ++ "\x7d"

def renderItems : List Node → List String
  | [] => []
  | item :: items => render item :: renderItems items

def renderEntries : List (Key × Node) → List String
  | [] => []
  | (key, value) :: entries => (text (keyName key) ++ ":" ++ render value) :: renderEntries entries

end

end YieldRules.Json
