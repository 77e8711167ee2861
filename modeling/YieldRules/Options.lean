import YieldRules.Document.Serial

/-!
# Evaluation options
-/

namespace YieldRules

structure Options where
  /-- How many references to requirement sets may follow each other. -/
  maxRequirementDepth : Nat
  deriving DecidableEq

namespace Options

def default : Options :=
  ⟨32⟩

instance : Serial Options where
  toNode o := .table [(.member "max_requirement_depth", .int o.maxRequirementDepth)]
  ofNode? n := do
    match ← (← n.fields? ["max_requirement_depth"]).lookup "max_requirement_depth" with
    | some depth => return ⟨← depth.natBelow? (Nat.pow 2 64)⟩
    | none => return default

end Options

end YieldRules
