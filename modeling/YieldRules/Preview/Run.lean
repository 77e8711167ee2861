import YieldRules.Preview.Config
import YieldRules.Preview.Report
import YieldRules.World.Load

/-!
# Running a preview

From the texts of a configuration and a world to the text of the report. There
is no report at all unless both can be loaded.
-/

namespace YieldRules.Preview

/-- Why there is no report. -/
inductive RunFault where
  | config (fault : ConfigFault)
  | world (fault : LoadFault)
  deriving DecidableEq

/-- The report that a configuration and a world give. -/
def run (config : Config) (world : Except LoadFault World) (player : Option PlayerId)
    (command : Command) : Except RunFault String := do
  let w ← world.mapError .world
  return joinLines (report (chosenPlayer player config.player w) w config.options command)

end YieldRules.Preview
