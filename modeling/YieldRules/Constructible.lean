import YieldRules.Id

/-!
# Constructible types

Buildings, improvements and wonders, by type.
-/

namespace YieldRules

structure ConstructibleType where
  name : DataName
  /-- Absent for a type that belongs to no single age. -/
  age : Option DataName
  /-- The adjacency bonuses that the type may receive. -/
  adjacencies : List DataName
  deriving DecidableEq

namespace ConstructibleType

/-- A type without an age and adjacencies. -/
def ofName (name : DataName) : ConstructibleType :=
  ⟨name, none, []⟩

/-- The type in an age. -/
def inAge (t : ConstructibleType) (age : DataName) : ConstructibleType :=
  { t with age := some age }

/-- The type with one more adjacency bonus, behind those that it has. -/
def withAdjacency (t : ConstructibleType) (adjacency : DataName) : ConstructibleType :=
  { t with adjacencies := t.adjacencies ++ [adjacency] }

def hasAdjacency (t : ConstructibleType) (adjacency : DataName) : Bool :=
  t.adjacencies.contains adjacency

instance : Serial ConstructibleType where
  toNode t := .table (field "ConstructibleType" t.name ++ field "Age" t.age ++
    field "Adjacencies" t.adjacencies)
  ofNode? n := do
    let fields ← n.fields? ["ConstructibleType", "Age", "Adjacencies"]
    return {
      name := ← fields.required "ConstructibleType"
      age := ← fields.withDefault "Age" none
      adjacencies := ← fields.withDefault "Adjacencies" [] }

end ConstructibleType

end YieldRules
