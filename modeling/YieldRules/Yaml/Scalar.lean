import YieldRules.Yaml.Text
import YieldRules.Text.Digit

/-!
# YAML scalars

The three ways to write a scalar. A scalar may go over several lines: a single
break inside it counts as a space, and of several breaks the first is dropped.
-/

namespace YieldRules.Yaml

/-- A scalar with its text and the place where it ends. -/
structure Scalar where
  text : List Char
  stop : Cursor

/-- What a run of blanks and breaks inside a scalar stands for. -/
def foldBreaks (run : List Char) : List Char :=
  match run.filter isBreak with
  | [] => run
  | ['\n'] => [' ']
  | '\n' :: more => more
  | breaks => breaks

/-- The run of blanks and breaks at a place. -/
def gapAt (c : Cursor) : List Char :=
  c.rest.takeWhile fun x => isBlank x || isBreak x

/-! ## Plain scalars -/

/-- Where a scalar stands decides what ends it. -/
structure Surroundings where
  inFlow : Bool
  /-- The least column of a line that continues a scalar in block style. -/
  indent : Nat

def isFlowMark (x : Char) : Bool :=
  x == ',' || x == '[' || x == ']' || x == '{' || x == '}'

/-- A colon is a word of its own before a blank, and never stands before a flow mark. -/
def endsWord (inFlow : Bool) (x : Char) (rest : List Char) : Bool :=
  (x == ':' && startsBlank rest) || (inFlow && isFlowMark x)

/-- In flow style a colon may not touch the mark behind it. -/
def isStrayColon (inFlow : Bool) (x : Char) (rest : List Char) : Bool :=
  inFlow && x == ':' &&
    match rest with
    | y :: _ => isFlowMark y || y == '?'
    | [] => false

/-- A word of a plain scalar. -/
def word? (inFlow : Bool) : List Char → Option (List Char)
  | [] => some []
  | x :: rest =>
    if isBlank x || isBreak x then some []
    else if isStrayColon inFlow x rest then none
    else if endsWord inFlow x rest then some []
    else (word? inFlow rest).map (x :: ·)

/-- After a break, a tab may not stand in the place of indentation. -/
def tabsIndent (indent : Nat) : Bool → Nat → List Char → Bool
  | _, _, [] => false
  | afterBreak, column, x :: run =>
    if isBreak x then tabsIndent indent true 0 run
    else
      (afterBreak && x == '\t' && column < indent) ||
        tabsIndent indent afterBreak (column + 1) run

/-- A plain scalar: words with gaps between them. The flag tells whether the scalar ends in a gap
over several lines. The number bounds the words. -/
def plainFrom? (around : Surroundings) (gap : List Char) (c : Cursor) :
    Nat → Option (Scalar × Bool)
  | 0 => none
  | fuel + 1 =>
    let ended := some (⟨[], c⟩, gap.any isBreak)
    if c.isAtDocumentBound || c.rest.head? == some '#' then ended
    else do
      let word ← word? around.inFlow c.rest
      if word.isEmpty then ended
      else
        let afterWord := c.skip word.length
        let run := gapAt afterWord
        if run.isEmpty then
          return (⟨foldBreaks gap ++ word, afterWord⟩, false)
        else if tabsIndent around.indent false 0 run then none
        else
          let afterRun := afterWord.skip run.length
          if !around.inFlow && afterRun.column < around.indent then
            return (⟨foldBreaks gap ++ word, afterRun⟩, run.any isBreak)
          else
            let (tail, broken) ← plainFrom? around run afterRun fuel
            return (⟨foldBreaks gap ++ word ++ tail.text, tail.stop⟩, broken)

def plain? (around : Surroundings) (c : Cursor) : Option (Scalar × Bool) :=
  plainFrom? around [] c (c.rest.length + 1)

/-! ## Quoted scalars -/

/-- The character that a letter behind a backslash stands for. -/
def namedEscape? : Char → Option Char
  | '0' => some '\x00'
  | 'a' => some '\x07'
  | 'b' => some '\x08'
  | 't' | '\t' => some '\t'
  | 'n' => some '\n'
  | 'v' => some '\x0b'
  | 'f' => some '\x0c'
  | 'r' => some '\r'
  | 'e' => some '\x1b'
  | ' ' => some ' '
  | '"' => some '"'
  | '/' => some '/'
  | '\\' => some '\\'
  | 'N' => some '\x85'
  | '_' => some '\xa0'
  | 'L' => some '\u2028'
  | 'P' => some '\u2029'
  | _ => none

/-- The number of digits behind a letter that introduces a code point. -/
def codeLength? : Char → Option Nat
  | 'x' => some 2
  | 'u' => some 4
  | 'U' => some 8
  | _ => none

/-- The character with the code point that some digits give. -/
def codePoint? (ds : List Char) : Option Char := do
  let n ← Text.digitsIn? 16 ds
  if n.isValidChar then some (Char.ofNat n) else none

/-- A piece of a quoted scalar and the number of characters it is written with. -/
structure Piece where
  text : List Char
  length : Nat

/-- An escape, given what follows its backslash. -/
def escape? : List Char → Option Piece
  | [] => none
  | x :: rest =>
    match codeLength? x with
    | some n =>
      if (rest.take n).length = n then
        (codePoint? (rest.take n)).map fun c => ⟨[c], n + 2⟩
      else none
    | none =>
      if isBreak x then
        -- An escaped break joins two lines; only breaks after it are kept.
        let run := rest.takeWhile fun y => isBlank y || isBreak y
        some ⟨run.filter isBreak, run.length + 2⟩
      else (namedEscape? x).map fun c => ⟨[c], 2⟩

/-- The next piece of a scalar between quotes, or nothing at the closing quote. -/
def piece? (quote : Char) : List Char → Option (Option Piece)
  | [] => none
  | x :: rest =>
    if x == quote then
      if quote == '\'' && rest.head? == some '\'' then some (some ⟨['\''], 2⟩) else some none
    else if quote == '"' && x == '\\' then (escape? rest).map some
    else if isBlank x || isBreak x then
      let run := x :: rest.takeWhile fun y => isBlank y || isBreak y
      some (some ⟨foldBreaks run, run.length⟩)
    else some (some ⟨[x], 1⟩)

/-- The scalar up to its closing quote. The number bounds its pieces. -/
def quotedFrom? (quote : Char) (c : Cursor) : Nat → Option Scalar
  | 0 => none
  | fuel + 1 =>
    if c.isAtDocumentBound then none
    else do
      match ← piece? quote c.rest with
      | none => return ⟨[], c.next⟩
      | some piece =>
        let tail ← quotedFrom? quote (c.skip piece.length) fuel
        return ⟨piece.text ++ tail.text, tail.stop⟩

/-- A scalar whose opening quote is the next character. -/
def quoted? (c : Cursor) : Option Scalar := do
  let quote ← c.rest.head?
  quotedFrom? quote c.next (c.rest.length + 1)

end YieldRules.Yaml
