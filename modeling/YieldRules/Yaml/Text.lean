/-!
# YAML text

Where in a text reading has got to, and the classes of characters that mean
something there. All ends of lines are made one character before reading, so a
line ends at a line feed or at one of the two Unicode separators.
-/

namespace YieldRules.Yaml

def isBreak (c : Char) : Bool :=
  c == '\n' || c == '\u2028' || c == '\u2029'

def isBlank (c : Char) : Bool :=
  c == ' ' || c == '\t'

/-- Make each end of a line, in any of its older forms, a line feed. -/
def unifyBreaks : List Char → List Char
  | [] => []
  | '\r' :: '\n' :: rest => '\n' :: unifyBreaks rest
  | '\r' :: rest => '\n' :: unifyBreaks rest
  | '\x85' :: rest => '\n' :: unifyBreaks rest
  | c :: rest => c :: unifyBreaks rest

/-- Characters that may stand in a document; other controls may not. -/
def isAllowed (c : Char) : Bool :=
  let n := c.toNat
  n == 0x9 || n == 0xA || n == 0xD || n == 0x85 || (0x20 ≤ n && n ≤ 0x7E) ||
    (0xA0 ≤ n && n ≤ 0xFFFD) || 0x10000 ≤ n

/-- The first character is a blank or a break, or there is none. -/
def startsBlank : List Char → Bool
  | [] => true
  | c :: _ => isBlank c || isBreak c

/-- A place in a text, with what is left of it. -/
structure Cursor where
  rest : List Char
  /-- The length of the text in front of it, in bytes of UTF-8. -/
  offset : Nat
  line : Nat
  column : Nat

namespace Cursor

def atStart (text : List Char) : Cursor :=
  ⟨text, 0, 0, 0⟩

/-- Go past one character. -/
def next (c : Cursor) : Cursor :=
  match c.rest with
  | [] => c
  | x :: rest =>
    let offset := c.offset + x.utf8Size
    if isBreak x then ⟨rest, offset, c.line + 1, 0⟩ else ⟨rest, offset, c.line, c.column + 1⟩

/-- Go past some characters. -/
def skip (c : Cursor) : Nat → Cursor
  | 0 => c
  | n + 1 => c.next.skip n

/-- A byte order mark may stand at the start of a line. -/
def skipOrderMark (c : Cursor) : Cursor :=
  if c.column == 0 && c.rest.head? == some '\ufeff' then c.next else c

/-- Go past all characters up to the first that fails a test. -/
def skipWhile (c : Cursor) (p : Char → Bool) : Cursor :=
  c.skip (c.rest.takeWhile p).length

/-- Three marks at the start of a line, on their own, bound a document. -/
def isAtBound (c : Cursor) (mark : Char) : Bool :=
  c.column == 0 &&
    match c.rest with
    | x :: y :: z :: rest => x == mark && y == mark && z == mark && startsBlank rest
    | _ => false

def isAtDocumentBound (c : Cursor) : Bool :=
  c.isAtBound '-' || c.isAtBound '.'

end Cursor

end YieldRules.Yaml
