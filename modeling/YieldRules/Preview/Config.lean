import YieldRules.Id
import YieldRules.Options
import YieldRules.Yaml.Reader

/-!
# Preview configurations

What to preview when the command line does not say. Every setting has a
default.
-/

namespace YieldRules.Preview

structure Config where
  /-- The path of the world. -/
  snapshot : String
  logFilter : String
  /-- The player to evaluate for, instead of the local player of the world. -/
  player : Option PlayerId
  options : Options
  deriving DecidableEq

/-- Why there is no configuration. -/
inductive ConfigFault where
  | unreadable (path : String)
  | malformed
  deriving DecidableEq

namespace Config

def default : Config :=
  ⟨"snapshot.yaml", "policy_yields_core=info", none, .default⟩

instance : Serial Config where
  toNode c := .table (field "snapshot" c.snapshot ++ field "log_filter" c.logFilter ++
    field "player" c.player ++ field "eval" c.options)
  ofNode? n := do
    let fields ← n.fields? ["snapshot", "log_filter", "player", "eval"]
    return {
      snapshot := ← fields.withDefault "snapshot" default.snapshot
      logFilter := ← fields.withDefault "log_filter" default.logFilter
      player := ← fields.withDefault "player" default.player
      options := ← fields.withDefault "eval" default.options }

/-- The configuration that a text in YAML describes. -/
def ofText (text : String) : Except ConfigFault Config :=
  match (Yaml.parse? text).bind ofNode? with
  | some c => .ok c
  | none => .error .malformed

/-- The configuration in a file, given the text of the file if it can be read. -/
def load (path : String) (text? : Option String) : Except ConfigFault Config :=
  match text? with
  | none => .error (.unreadable path)
  | some text => ofText text

end Config

end YieldRules.Preview
