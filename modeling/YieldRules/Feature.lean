import YieldRules.Id

/-!
# Plot features

A feature of the land, with the class it belongs to.
-/

namespace YieldRules

structure Feature where
  name : DataName
  featureClass : Option DataName
  deriving DecidableEq

instance : Serial Feature where
  toNode f := .table (field "feature_type" f.name ++ field "feature_class" f.featureClass)
  ofNode? n := do
    let fields ← n.fields? ["feature_type", "feature_class"]
    return {
      name := ← fields.required "feature_type"
      featureClass := ← fields.withDefault "feature_class" none }

end YieldRules
