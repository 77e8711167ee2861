import YieldRules.Yaml.Token
import YieldRules.Document.Node

/-!
# Reading YAML

The node of a text that holds one document. Where a node may be left out, an
empty bare scalar stands in its place.
-/

namespace YieldRules.Yaml

/-- The node of a place where nothing is written. -/
def nothing : Node :=
  .bare ""

/-- A node in the place of a key. -/
def keyOf : Node → Key
  | .bare s => .bare s
  | .text s => .quoted s
  | _ => .compound

/-- What may stand in the place of a node. -/
structure Place where
  inBlock : Bool
  /-- A list may begin with its first entry, in the column of the key in front of it. -/
  allowsEntries : Bool

def Place.listItem : Place :=
  ⟨true, false⟩

def Place.tableItem : Place :=
  ⟨true, true⟩

def Place.flowItem : Place :=
  ⟨false, false⟩

mutual

/-- A node. The number bounds how deep nodes nest and how many follow each other. -/
def readNode (place : Place) : Nat → List Token → Option (Node × List Token)
  | 0, _ => none
  | fuel + 1, tokens =>
    match tokens with
    | .scalar s true :: rest => some (.bare s, rest)
    | .scalar s false :: rest => some (.text s, rest)
    | .flowListStart :: rest => do
      let (items, rest) ← readFlowList fuel true rest
      return (.series items, rest)
    | .flowTableStart :: rest => do
      let (entries, rest) ← readFlowTable fuel true rest
      return (.table entries, rest)
    | .blockEntry :: _ =>
      if place.allowsEntries then do
        let (items, rest) ← readEntries fuel tokens
        return (.series items, rest)
      else none
    | .blockListStart :: rest =>
      if place.inBlock then do
        let (items, rest) ← readBlockList fuel rest
        return (.series items, rest)
      else none
    | .blockTableStart :: rest =>
      if place.inBlock then do
        let (entries, rest) ← readBlockTable fuel rest
        return (.table entries, rest)
      else none
    | _ => none

/-- A node that may be left out in front of some tokens. -/
def readOptional (place : Place) (ends : Token → Bool) :
    Nat → List Token → Option (Node × List Token)
  | 0, _ => none
  | fuel + 1, tokens =>
    if tokens.head?.any ends then some (nothing, tokens) else readNode place fuel tokens

/-- The value behind a key, if a colon follows it. -/
def readValue (place : Place) (ends : Token → Bool) :
    Nat → List Token → Option (Node × List Token)
  | 0, _ => none
  | fuel + 1, tokens =>
    match tokens with
    | .value :: rest => readOptional place ends fuel rest
    | _ => some (nothing, tokens)

/-- The items of a list in block style up to its end. -/
def readBlockList : Nat → List Token → Option (List Node × List Token)
  | 0, _ => none
  | fuel + 1, tokens =>
    match tokens with
    | .blockEnd :: rest => some ([], rest)
    | .blockEntry :: rest => do
      let (item, rest) ←
        readOptional .listItem (fun t => t == .blockEntry || t == .blockEnd) fuel rest
      let (items, rest) ← readBlockList fuel rest
      return (item :: items, rest)
    | _ => none

/-- The items of a list that stands in the column of its key. -/
def readEntries : Nat → List Token → Option (List Node × List Token)
  | 0, _ => none
  | fuel + 1, tokens =>
    match tokens with
    | .blockEntry :: rest => do
      let (item, rest) ← readOptional .listItem
        (fun t => t == .blockEntry || t == .key || t == .value || t == .blockEnd) fuel rest
      let (items, rest) ← readEntries fuel rest
      return (item :: items, rest)
    | _ => some ([], tokens)

/-- The entries of a table in block style up to its end. -/
def readBlockTable : Nat → List Token → Option (List (Key × Node) × List Token)
  | 0, _ => none
  | fuel + 1, tokens =>
    match tokens with
    | .blockEnd :: rest => some ([], rest)
    | .key :: rest => do
      let ends (t : Token) := t == .key || t == .value || t == .blockEnd
      let (key, rest) ← readOptional .tableItem ends fuel rest
      let (value, rest) ← readValue .tableItem ends fuel rest
      let (entries, rest) ← readBlockTable fuel rest
      return ((keyOf key, value) :: entries, rest)
    | _ => none

/-- The items of a list in flow style up to its end. A key in it makes a table of one entry. -/
def readFlowList : Nat → Bool → List Token → Option (List Node × List Token)
  | 0, _, _ => none
  | fuel + 1, isFirst, tokens =>
    match tokens with
    | .flowListEnd :: rest => some ([], rest)
    | .flowEntry :: rest =>
      if isFirst then none
      else
        match rest with
        | .flowListEnd :: rest => some ([], rest)
        | rest => readFlowItem fuel rest
    | tokens => if isFirst then readFlowItem fuel tokens else none

/-- The key of a table of one entry. If it is left out, the token behind its mark goes with it. -/
def readPairKey : Nat → List Token → Option (Node × List Token)
  | 0, _ => none
  | fuel + 1, tokens =>
    match tokens with
    | .value :: rest | .flowEntry :: rest | .flowListEnd :: rest => some (nothing, rest)
    | tokens => readNode .flowItem fuel tokens

/-- An item of a list in flow style and the items behind it. -/
def readFlowItem : Nat → List Token → Option (List Node × List Token)
  | 0, _ => none
  | fuel + 1, tokens => do
    let (item, rest) ←
      match tokens with
      | .key :: rest => do
        let ends (t : Token) := t == .flowEntry || t == .flowListEnd
        let (key, rest) ← readPairKey fuel rest
        let (value, rest) ← readValue .flowItem ends fuel rest
        some (Node.table [(keyOf key, value)], rest)
      | tokens => readNode .flowItem fuel tokens
    let (items, rest) ← readFlowList fuel false rest
    return (item :: items, rest)

/-- The entries of a table in flow style up to its end. -/
def readFlowTable : Nat → Bool → List Token → Option (List (Key × Node) × List Token)
  | 0, _, _ => none
  | fuel + 1, isFirst, tokens =>
    match tokens with
    | .flowTableEnd :: rest => some ([], rest)
    | .flowEntry :: rest =>
      if isFirst then none
      else
        match rest with
        | .flowTableEnd :: rest => some ([], rest)
        | rest => readFlowEntry fuel rest
    | tokens => if isFirst then readFlowEntry fuel tokens else none

/-- An entry of a table in flow style and the entries behind it. -/
def readFlowEntry : Nat → List Token → Option (List (Key × Node) × List Token)
  | 0, _ => none
  | fuel + 1, tokens => do
    let (entry, rest) ←
      match tokens with
      | .key :: rest => do
        let ends (t : Token) := t == .flowEntry || t == .flowTableEnd
        let (key, rest) ← readOptional .flowItem (fun t => t == .value || ends t) fuel rest
        let (value, rest) ← readValue .flowItem ends fuel rest
        some ((keyOf key, value), rest)
      | tokens => do
        let (key, rest) ← readNode .flowItem fuel tokens
        some ((keyOf key, nothing), rest)
    let (entries, rest) ← readFlowTable fuel false rest
    return (entry :: entries, rest)

end

/-- The tokens that may stand behind the only document of a text. -/
def isEndOfText (tokens : List Token) : Bool :=
  tokens.all (· == .documentEnd)

/-- The root of a document, which may be left out. -/
def readRoot (tokens : List Token) : Option (Node × List Token) :=
  match tokens with
  | [] | .documentStart :: _ | .documentEnd :: _ => some (nothing, tokens)
  | tokens => readNode .listItem (6 * tokens.length + 6) tokens

/-- The node of a text that holds one document. -/
def parse? (s : String) : Option Node := do
  let tokens ← tokens? s
  let (root, rest) ←
    match tokens with
    | .documentStart :: rest => readRoot rest
    | .documentEnd :: _ => none
    | tokens => readRoot tokens
  if isEndOfText rest then some root else none

end YieldRules.Yaml
