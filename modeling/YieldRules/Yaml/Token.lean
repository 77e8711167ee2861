import YieldRules.Yaml.Scalar

/-!
# YAML tokens

The tokens of a document. Indentation and line ends are gone from them: block
collections have tokens at their start and end, and every key has a mark in
front of it. The mark of a key is known only when its colon is found, so until
then the place where a key may have begun is remembered.

Anchors, aliases, tags, directives and block scalars are not part of the
documents that are read here, so their marks are malformed.
-/

namespace YieldRules.Yaml

inductive Token where
  | documentStart
  | documentEnd
  | blockListStart
  | blockTableStart
  | blockEnd
  | flowListStart
  | flowListEnd
  | flowTableStart
  | flowTableEnd
  | blockEntry
  | flowEntry
  | key
  | value
  | scalar (text : String) (isBare : Bool)
  deriving DecidableEq

/-- A place where a key may have begun. -/
structure KeyStart where
  /-- The number of tokens in front of it. -/
  position : Nat
  offset : Nat
  line : Nat
  column : Nat
  /-- A block table goes on here, so there has to be a key. -/
  required : Bool

/-- What is known at a place between two tokens. -/
structure Lexer where
  cursor : Cursor
  tokens : Array Token
  /-- The columns of the open block collections, innermost first. -/
  indents : List Nat
  keyStart : Option KeyStart
  /-- The key starts outside each open flow collection, innermost first. -/
  outerKeyStarts : List (Option KeyStart)
  keyAllowed : Bool

namespace Lexer

def ofText (text : List Char) : Lexer :=
  ⟨.atStart text, #[], [], none, [], true⟩

variable (s : Lexer)

def inFlow : Bool :=
  !s.outerKeyStarts.isEmpty

def push (t : Token) : Lexer :=
  { s with tokens := s.tokens.push t }

def skip (n : Nat) : Lexer :=
  { s with cursor := s.cursor.skip n }

/-! ## Key starts -/

/-- A key start can no longer become a key on another line or after 1024 bytes. -/
def isStale (k : KeyStart) : Bool :=
  k.line < s.cursor.line || k.offset + 1024 < s.cursor.offset

/-- Forget a key start that can no longer become a key; none may be required. -/
def dropStale : Option KeyStart → Option (Option KeyStart)
  | none => some none
  | some k => if s.isStale k then (if k.required then none else some none) else some (some k)

def dropStaleKeys : Option Lexer := do
  return { s with
    keyStart := ← s.dropStale s.keyStart
    outerKeyStarts := ← s.outerKeyStarts.mapM s.dropStale }

/-- Something other than a colon was found, so there was no key; none may be required. -/
def dropKey : Option Lexer :=
  if s.keyStart.any (·.required) then none else some { s with keyStart := none }

/-- A key may begin here, if keys are allowed. -/
def saveKey : Option Lexer :=
  if s.keyAllowed then do
    let t ← s.dropKey
    let c := s.cursor
    let required := !s.inFlow && s.indents.head? == some c.column
    return { t with keyStart := some ⟨s.tokens.size, c.offset, c.line, c.column, required⟩ }
  else
    some s

/-! ## Indentation -/

/-- A line in block style at some column closes the collections that are further in. -/
def closeDeeper (column : Nat) : Lexer :=
  if s.inFlow then s
  else
    let closed := s.indents.takeWhile fun i => column < i
    { s with
      tokens := s.tokens ++ closed.map fun _ => Token.blockEnd
      indents := s.indents.drop closed.length }

/-- Close all block collections. -/
def closeAll : Lexer :=
  if s.inFlow then s
  else { s with tokens := s.tokens ++ s.indents.map (fun _ => Token.blockEnd), indents := [] }

/-- A collection begins at a column in block style, unless it goes on there. -/
def openBlock (column position : Nat) (t : Token) : Lexer :=
  if s.inFlow || s.indents.head?.any (column ≤ ·) then s
  else { s with
    tokens := s.tokens.insertIdxIfInBounds position t
    indents := column :: s.indents }

/-! ## Between tokens -/

/-- Skip blanks, comments and ends of lines up to the next token. -/
def skipBlank : Nat → Lexer → Lexer
  | 0, s => s
  | fuel + 1, s =>
    let tabs := s.inFlow || !s.keyAllowed
    let afterBlanks := s.cursor.skipOrderMark.skipWhile fun x => x == ' ' || (tabs && x == '\t')
    let c :=
      if afterBlanks.rest.head? == some '#' then afterBlanks.skipWhile fun x => !isBreak x
      else afterBlanks
    match c.rest with
    | x :: _ =>
      if isBreak x then
        skipBlank fuel { s with cursor := c.next, keyAllowed := s.keyAllowed || !s.inFlow }
      else { s with cursor := c }
    | [] => { s with cursor := c }

/-! ## Tokens -/

/-- The line that bounds a document. -/
def documentBound (t : Token) : Option Lexer := do
  let s ← s.closeAll.dropKey
  return { (s.push t).skip 3 with keyAllowed := false }

def openFlow (t : Token) : Option Lexer := do
  let s ← s.saveKey
  return { (s.push t).skip 1 with
    keyStart := none
    outerKeyStarts := s.keyStart :: s.outerKeyStarts
    keyAllowed := true }

def closeFlow (t : Token) : Option Lexer := do
  let s ← s.dropKey
  let s := { (s.push t).skip 1 with keyAllowed := false }
  match s.outerKeyStarts with
  | [] => return s
  | k :: outer => return { s with keyStart := k, outerKeyStarts := outer }

def flowEntry : Option Lexer := do
  let s ← s.dropKey
  return { (s.push .flowEntry).skip 1 with keyAllowed := true }

/-- A mark that may begin a block collection stands where a key may stand. -/
def openBlockHere (t : Token) : Option Lexer :=
  if s.inFlow then some s
  else if s.keyAllowed then some (s.openBlock s.cursor.column s.tokens.size t)
  else none

def blockEntry : Option Lexer := do
  let s ← (← s.openBlockHere .blockListStart).dropKey
  return { (s.push .blockEntry).skip 1 with keyAllowed := true }

/-- A question mark in front of a key. -/
def explicitKey : Option Lexer := do
  let s ← (← s.openBlockHere .blockTableStart).dropKey
  return { (s.push .key).skip 1 with keyAllowed := !s.inFlow }

/-- A colon: what stands at the key start was a key. -/
def value : Option Lexer :=
  match s.keyStart with
  | some k =>
    let s := { s with tokens := s.tokens.insertIdxIfInBounds k.position .key }
    let s := s.openBlock k.column k.position .blockTableStart
    some { (s.push .value).skip 1 with keyStart := none, keyAllowed := false }
  | none => do
    let s ← s.openBlockHere .blockTableStart
    return { (s.push .value).skip 1 with keyAllowed := !s.inFlow }

def quotedScalar : Option Lexer := do
  let s ← s.saveKey
  let scalar ← quoted? s.cursor
  return { s.push (.scalar (String.ofList scalar.text) false) with
    cursor := scalar.stop, keyAllowed := false }

/-- The least column at which a scalar in block style goes on. -/
def scalarIndent : Nat :=
  match s.indents with
  | [] => 0
  | i :: _ => i + 1

def plainScalar : Option Lexer := do
  let s ← s.saveKey
  let (scalar, broken) ← plain? ⟨s.inFlow, s.scalarIndent⟩ s.cursor
  return { s.push (.scalar (String.ofList scalar.text) true) with
    cursor := scalar.stop, keyAllowed := broken }

/-- Characters that cannot begin a plain scalar on their own. -/
def marks : List Char :=
  ['-', '?', ':', ',', '[', ']', '{', '}', '#', '&', '*', '!', '|', '>', '\'', '"', '%', '@',
    '\x60']

/-- A plain scalar may begin with a dash, in block style also with a question mark or a colon, if
something follows at once. A tab in the place of indentation begins nothing. -/
def startsPlain (x : Char) (rest : List Char) : Bool :=
  !(isBlank x || marks.contains x) ||
    (x == '-' && !startsBlank rest) ||
    (!s.inFlow && (x == '?' || x == ':') && !startsBlank rest)

/-- One more token, or none at the end of the text. -/
def step? : Option (Lexer × Bool) := do
  let s := skipBlank (s.cursor.rest.length + 1) s
  let s ← s.dropStaleKeys
  let s := s.closeDeeper s.cursor.column
  match s.cursor.rest with
  | [] => return (← s.closeAll.dropKey, true)
  | x :: rest =>
    let more (next : Option Lexer) : Option (Lexer × Bool) := next.map (·, false)
    let blankNext := startsBlank rest
    if s.cursor.column == 0 && x == '%' then none
    else if s.cursor.isAtBound '-' then more (s.documentBound .documentStart)
    else if s.cursor.isAtBound '.' then more (s.documentBound .documentEnd)
    else if x == '[' then more (s.openFlow .flowListStart)
    else if x == '{' then more (s.openFlow .flowTableStart)
    else if x == ']' then more (s.closeFlow .flowListEnd)
    else if x == '}' then more (s.closeFlow .flowTableEnd)
    else if x == ',' then more s.flowEntry
    else if x == '-' && blankNext then more s.blockEntry
    else if x == '?' && (s.inFlow || blankNext) then more s.explicitKey
    else if x == ':' && (s.inFlow || blankNext) then more s.value
    else if x == '\'' || x == '"' then more s.quotedScalar
    else if s.startsPlain x rest then more s.plainScalar
    else none

/-- All further tokens. Every step goes past a character, so the number bounds the steps. -/
def run? : Nat → Lexer → Option (Array Token)
  | 0, _ => none
  | fuel + 1, s => do
    let (next, done) ← s.step?
    if done then return next.tokens else run? fuel next

end Lexer

/-- The tokens of a text. -/
def tokens? (s : String) : Option (List Token) :=
  let text := unifyBreaks s.toList
  if text.all isAllowed then
    (Lexer.run? (text.length + 2) (.ofText text)).map (·.toList)
  else none

end YieldRules.Yaml
