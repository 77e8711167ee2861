import YieldRules.Collection
import YieldRules.Requirement

/-!
# Modifiers

A modifier applies an effect to the subjects of a collection that meet its
requirements.
-/

namespace YieldRules

structure Modifier where
  id : Option DataName
  arguments : Arguments
  collection : Collection
  effect : DataName
  subjectRequirements : Option RequirementSet
  /-- Tested on the player by whoever owns the modifier, not when subjects are chosen. -/
  ownerRequirements : Option RequirementSet

namespace Modifier

/-- A modifier without arguments and requirements. -/
def ofEffect (collection : Collection) (effect : DataName) : Modifier :=
  ⟨none, {}, collection, effect, none, none⟩

/-- The modifier with other arguments in the place of its own. -/
def withArguments (m : Modifier) (arguments : Arguments) : Modifier :=
  { m with arguments }

/-- The modifier with a set of requirements on its subjects. -/
def withSubjectRequirements (m : Modifier) (set : RequirementSet) : Modifier :=
  { m with subjectRequirements := some set }

/-- The name of a modifier in reports. -/
def label (m : Modifier) : String :=
  m.id.getD m.effect

instance : Serial Modifier where
  toNode m := .table (fieldIfSome "ModifierId" m.id ++ field "Arguments" m.arguments ++
    field "CollectionType" m.collection ++ field "EffectType" m.effect ++
    field "SubjectRequirementSet" m.subjectRequirements ++
    field "OwnerRequirementSet" m.ownerRequirements)
  ofNode? n := do
    let fields ← n.fields?
      ["ModifierId", "Arguments", "CollectionType", "EffectType", "SubjectRequirementSet",
        "OwnerRequirementSet"]
    return {
      id := ← fields.withDefault "ModifierId" none
      arguments := ← fields.withDefault "Arguments" {}
      collection := ← fields.required "CollectionType"
      effect := ← fields.withDefault "EffectType" ""
      subjectRequirements := ← fields.withDefault "SubjectRequirementSet" none
      ownerRequirements := ← fields.withDefault "OwnerRequirementSet" none }

end Modifier

end YieldRules
