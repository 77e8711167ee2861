import YieldRules.Document.Node
import YieldRules.Document.Bare
import YieldRules.SortedMap

/-!
# Values in documents

A type is serial when its values can be written as document nodes and read
back. Reading accepts what several formats write: typed scalars as well as
bare ones, which take the type of the field they go to.

A record is a table whose unknown fields are ignored. A field may be left out
when it has a default, and none may be repeated. Some formats also write a
record as the list of the values of its first fields. An empty bare scalar
stands for a table or a list without entries.
-/

namespace YieldRules

class Serial (α : Type) where
  toNode : α → Node
  ofNode? : Node → Option α

export Serial (toNode ofNode?)

/-- Types that can be the keys of a table. -/
class SerialKey (κ : Type) where
  toKey : κ → Key
  ofKey? : Key → Option κ

/-! ## Scalars -/

instance : Serial String where
  toNode := .text
  ofNode?
    | .text s | .bare s => some s
    | _ => none

instance : Serial Bool where
  toNode := .bool
  ofNode?
    | .bool b => some b
    | .bare s => Bare.bool? s
    | _ => none

instance : Serial Float where
  toNode := .float
  ofNode?
    | .float x => some x
    | .int n => some (Float.ofInt n)
    | .bare s => Bare.float? s
    | _ => none

/-- A natural number below a bound. -/
def Node.natBelow? (bound : Nat) (n : Node) : Option Nat := do
  let value ←
    match n with
    | .int i => i.toNat?
    | .bare s => Bare.nat? s
    | _ => none
  if value < bound then some value else none

instance : Serial UInt8 where
  toNode n := .int n.toNat
  ofNode? n := (n.natBelow? UInt8.size).map UInt8.ofNat

instance : Serial UInt32 where
  toNode n := .int n.toNat
  ofNode? n := (n.natBelow? UInt32.size).map UInt32.ofNat

instance : Serial Int32 where
  toNode n := .int n.toInt
  ofNode? n := do
    let value ←
      match n with
      | .int i => some i
      | .bare s => Bare.int? s
      | _ => none
    if Int32.minValue.toInt ≤ value ∧ value ≤ Int32.maxValue.toInt then
      some (Int32.ofInt value)
    else
      none

/-- Nothing is written in the place of an absent value. -/
def Node.isAbsent : Node → Bool
  | .null => true
  | .bare s => Bare.isAbsent s
  | _ => false

instance {α : Type} [Serial α] : Serial (Option α) where
  toNode
    | none => .null
    | some x => toNode x
  ofNode? n := if n.isAbsent then some none else (ofNode? n).map some

/-! ## Lists, maps and sets -/

def Node.items? : Node → Option (List Node)
  | .list items | .series items => some items
  | .bare "" => some []
  | _ => none

def Node.entries? : Node → Option (List (Key × Node))
  | .table entries => some entries
  | .bare "" => some []
  | _ => none

instance {α : Type} [Serial α] : Serial (List α) where
  toNode xs := .list (xs.map toNode)
  ofNode? n := do (← n.items?).mapM ofNode?

instance : SerialKey String where
  toKey := .member
  ofKey? := Key.text?

/-- A number in decimal digits, none of them a leading zero. -/
def canonicalNat? (cs : List Char) : Option Nat :=
  match cs with
  | ['0'] => some 0
  | '0' :: _ => none
  | cs => Text.digitsIn? 10 cs

instance : SerialKey UInt32 where
  toKey n := .member (toString n.toNat)
  ofKey? k := do
    let value ←
      match k with
      | .member s => canonicalNat? s.toList
      | .bare s => Bare.nat? s
      | _ => none
    if value < UInt32.size then some (UInt32.ofNat value) else none

section
variable {κ α : Type} [Ord κ] [Std.TransOrd κ] [Std.LawfulEqOrd κ]

/-- Of the entries with one key the last counts. -/
instance [SerialKey κ] [Serial α] : Serial (SortedMap κ α) where
  toNode m := .table (m.entries.map fun e => (SerialKey.toKey e.1, toNode e.2))
  ofNode? n := do
    let entries ← (← n.entries?).mapM fun e => do
      return (← SerialKey.ofKey? e.1, ← ofNode? e.2)
    return SortedMap.ofList entries

instance [Serial κ] : Serial (SortedSet κ) where
  toNode s := .list (s.keys.map toNode)
  ofNode? n := do
    let keys ← (← n.items?).mapM ofNode?
    return SortedSet.ofList keys

end

/-! ## Records -/

/-- The fields of a record as they are written. -/
structure Fields where
  entries : List (Key × Node)

/-- The fields of a record that is written as the list of its first values. -/
def Fields.ofValues? (names : List String) (values : List Node) : Option Fields :=
  if values.length ≤ names.length then some ⟨(names.map Key.member).zip values⟩ else none

/-- Read a node as a record with fields of some names, given in their order. The keys of a table
must be scalars. -/
def Node.fields? (n : Node) (names : List String) : Option Fields :=
  match n with
  | .list values => Fields.ofValues? names values
  | n => do
    let entries ← n.entries?
    if entries.all fun e => e.1.text?.isSome then some ⟨entries⟩ else none

namespace Fields

/-- The node of a field. Fails when the field is repeated. -/
def lookup (fields : Fields) (name : String) : Option (Option Node) :=
  match fields.entries.filter fun e => e.1.text? == some name with
  | [] => some none
  | [e] => some (some e.2)
  | _ => none

/-- The value of a field that must be there. -/
def required {α : Type} [Serial α] (fields : Fields) (name : String) : Option α := do
  ofNode? (← ← fields.lookup name)

/-- The value of a field, or its default when the field is left out. -/
def withDefault {α : Type} [Serial α] (fields : Fields) (name : String) (default : α) :
    Option α := do
  match ← fields.lookup name with
  | some n => ofNode? n
  | none => return default

end Fields

/-- Read a node as a record whose first field is a tag that tells which fields follow it. -/
def Node.taggedFields? (n : Node) (tagName : String) (names : String → List String) :
    Option (String × Fields) :=
  match n with
  | .list (tag :: values) => do
    let tag : String ← ofNode? tag
    return (tag, ← Fields.ofValues? (names tag) values)
  | n => do
    let fields ← n.fields? []
    return (← fields.required tagName, fields)

/-- The name of one of several alternatives. In a table it stands alone, in front of nothing. -/
def Node.name? : Node → Option String
  | .text s | .bare s => some s
  | .table [(.member s, .null)] => some s
  | _ => none

/-- A field that is written whatever its value. -/
def field {α : Type} [Serial α] (name : String) (x : α) : List (Key × Node) :=
  [(.member name, toNode x)]

/-- A field that is left out when its value is absent. -/
def fieldIfSome {α : Type} [Serial α] (name : String) : Option α → List (Key × Node)
  | none => []
  | some x => field name x

end YieldRules
