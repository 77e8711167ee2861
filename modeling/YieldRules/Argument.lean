import YieldRules.Id
import YieldRules.Text.Blank
import YieldRules.Text.Pieces
import YieldRules.Text.Quoted

/-!
# Arguments

Modifiers and requirements carry arguments: text values by name, as the game
database holds them. An empty value counts as not set, but it is there; the
accessors differ in which of the two they ask for.
-/

namespace YieldRules

/-- One argument. Beside its value it may hold the auxiliary columns of the database. -/
structure Argument where
  value : String
  extra : Option String
  secondExtra : Option String
  kind : Option String
  deriving DecidableEq

namespace Argument

/-- An argument that is a value and nothing else. -/
def ofValue (value : String) : Argument :=
  ⟨value, none, none, none⟩

def isSet (a : Argument) : Bool :=
  !a.value.isEmpty

instance : Serial Argument where
  toNode a := .table (field "Value" a.value ++ fieldIfSome "Extra" a.extra ++
    fieldIfSome "SecondExtra" a.secondExtra ++ fieldIfSome "Type" a.kind)
  ofNode? n := do
    let fields ← n.fields? ["Value", "Extra", "SecondExtra", "Type"]
    return {
      value := ← fields.required "Value"
      extra := ← fields.withDefault "Extra" none
      secondExtra := ← fields.withDefault "SecondExtra" none
      kind := ← fields.withDefault "Type" none }

end Argument

/-- Why an argument cannot be used. -/
inductive ArgumentFault where
  | missing (name : String)
  | notANumber (name value : String)
  deriving DecidableEq

def ArgumentFault.message : ArgumentFault → String
  | missing name => s!"argument {name} is missing"
  | notANumber name value => s!"argument {name} is not a number: " ++ Text.quoted value

/-- Arguments by name. -/
abbrev Arguments := SortedMap String Argument

namespace Arguments

/-- Give an argument a plain value. -/
def set (args : Arguments) (name value : String) : Arguments :=
  args.insert name (.ofValue value)

/-- The value of an argument that is set. -/
def value? (args : Arguments) (name : String) : Option String :=
  ((args.get? name).filter Argument.isSet).map (·.value)

/-- An argument that has to be there, though its value may be empty. -/
def required (args : Arguments) (name : String) : Except ArgumentFault Argument :=
  match args.get? name with
  | some a => .ok a
  | none => .error (.missing name)

/-- The items of an argument whose value is a list. Items are trimmed and none is dropped. -/
def itemsBetween (args : Arguments) (separator name : String) :
    Except ArgumentFault (List String) := do
  let a ← args.required name
  return (Text.pieces separator.toList a.value.toList).map fun piece =>
    String.ofList (Text.trim piece)

/-- The items of an argument whose value is a list with commas. -/
def items (args : Arguments) (name : String) : Except ArgumentFault (List String) :=
  args.itemsBetween "," name

/-- The number that a set argument holds; it is finite. -/
def number (args : Arguments) (name : String) : Except ArgumentFault (Option Float) :=
  match args.value? name with
  | none => .ok none
  | some raw =>
    match Decimal.parseFinite? (Text.trim raw.toList) with
    | some x => .ok (some x)
    | none => .error (.notANumber name raw)

/-- A flag is raised by the value `true` and by no other. -/
def flag (args : Arguments) (name : String) : Bool :=
  args.value? name == some "true"

/-- All names and values, for messages. -/
def describe (args : Arguments) : String :=
  let shown := args.entries.map fun e => e.1 ++ "=" ++ Text.quoted e.2.value
  "\x7b" ++ ", ".intercalate shown ++ "\x7d"

end Arguments

end YieldRules
