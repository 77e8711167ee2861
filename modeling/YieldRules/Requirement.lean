import YieldRules.Argument

/-!
# Requirements

A requirement is a condition on a subject. It names a test of the game, or it
refers to a requirement set by name; either may be inverted. A set asks that
all of its requirements hold, or that any of them does.
-/

namespace YieldRules

inductive RequirementKind where
  /-- Holds when the set named by the argument `RequirementSetId` does. -/
  | setReference
  /-- A test that the game itself decides. -/
  | predicate (name : String)
  deriving DecidableEq

namespace RequirementKind

def setReferenceName : String :=
  "REQUIREMENT_REQUIREMENTSET_IS_MET"

def name : RequirementKind → String
  | setReference => setReferenceName
  | predicate s => s

def ofName (s : String) : RequirementKind :=
  if s = setReferenceName then setReference else predicate s

instance : Serial RequirementKind where
  toNode k := .text k.name
  ofNode? n := (ofNode? n).map ofName

end RequirementKind

structure Requirement where
  id : Option DataName
  kind : RequirementKind
  inverse : Bool
  arguments : Arguments

namespace Requirement

/-- The argument of a reference that names the set. -/
def setIdArgument : String :=
  "RequirementSetId"

def ofKind (kind : RequirementKind) : Requirement :=
  ⟨none, kind, false, {}⟩

/-- The requirement with other arguments in the place of its own. -/
def withArguments (r : Requirement) (arguments : Arguments) : Requirement :=
  { r with arguments }

/-- A reference to a requirement set. -/
def reference (setId : String) : Requirement :=
  (ofKind .setReference).withArguments (Arguments.set {} setIdArgument setId)

/-- The opposite requirement. -/
def inverted (r : Requirement) : Requirement :=
  { r with inverse := !r.inverse }

instance : Serial Requirement where
  toNode r := .table (fieldIfSome "RequirementId" r.id ++ field "RequirementType" r.kind ++
    field "Inverse" r.inverse ++ field "Arguments" r.arguments)
  ofNode? n := do
    let fields ← n.fields? ["RequirementId", "RequirementType", "Inverse", "Arguments"]
    return {
      id := ← fields.withDefault "RequirementId" none
      kind := ← fields.required "RequirementType"
      inverse := ← fields.withDefault "Inverse" false
      arguments := ← fields.withDefault "Arguments" {} }

end Requirement

inductive RequirementSetType where
  | all
  | any
  | other (name : String)
  deriving DecidableEq

namespace RequirementSetType

def name : RequirementSetType → String
  | all => "REQUIREMENTSET_TEST_ALL"
  | any => "REQUIREMENTSET_TEST_ANY"
  | other s => s

def ofName (s : String) : RequirementSetType :=
  if s = "REQUIREMENTSET_TEST_ALL" then all
  else if s = "REQUIREMENTSET_TEST_ANY" then any
  else other s

instance : Serial RequirementSetType where
  toNode t := .text t.name
  ofNode? n := (ofNode? n).map ofName

end RequirementSetType

structure RequirementSet where
  id : Option DataName
  setType : RequirementSetType
  requirements : List Requirement

namespace RequirementSet

/-- The set that asks for all of some requirements. -/
def allOf (requirements : List Requirement) : RequirementSet :=
  ⟨none, .all, requirements⟩

/-- The set that asks for one of some requirements. -/
def anyOf (requirements : List Requirement) : RequirementSet :=
  ⟨none, .any, requirements⟩

instance : Serial RequirementSet where
  toNode s := .table (fieldIfSome "RequirementSetId" s.id ++
    field "RequirementSetType" s.setType ++ field "Requirements" s.requirements)
  ofNode? n := do
    let fields ← n.fields? ["RequirementSetId", "RequirementSetType", "Requirements"]
    return {
      id := ← fields.withDefault "RequirementSetId" none
      setType := ← fields.withDefault "RequirementSetType" .all
      requirements := ← fields.withDefault "Requirements" [] }

end RequirementSet

end YieldRules
