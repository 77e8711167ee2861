import YieldRules.World.Defect
import YieldRules.Yaml.Reader

/-!
# Loading worlds

A world comes from a text in YAML. It is usable when the text can be had, is a
document of the right shape, and describes a world without defects.
-/

namespace YieldRules

/-- Why there is no world to evaluate. -/
inductive LoadFault where
  | unreadable
  | malformed
  | defective (defect : Defect)
  deriving DecidableEq

namespace World

/-- A world without defects. -/
def checked (w : World) : Except LoadFault World :=
  match w.defect? with
  | none => .ok w
  | some d => .error (.defective d)

/-- The world that a text describes. -/
def ofText (text : String) : Except LoadFault World :=
  match (Yaml.parse? text).bind ofNode? with
  | none => .error .malformed
  | some w => checked w

/-- The world in a file, given the text of the file if it can be read. -/
def load (text? : Option String) : Except LoadFault World :=
  match text? with
  | none => .error .unreadable
  | some text => ofText text

end World

end YieldRules
