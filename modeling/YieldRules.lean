import YieldRules.Main
import YieldRules.Preview.Run
import YieldRules.Era
import YieldRules.Json.Reader
import YieldRules.Json.Writer
import YieldRules.Proofs.Valuation
import YieldRules.Proofs.DepthLimit
import YieldRules.Proofs.Reordering
import YieldRules.Proofs.Duality
import YieldRules.Proofs.Inlining
import YieldRules.Proofs.Filtering
import YieldRules.Proofs.SoundWorld
import YieldRules.Proofs.Precedence
import YieldRules.Proofs.DirectCount
import YieldRules.Proofs.BuiltPlots
import YieldRules.Proofs.Influence
import YieldRules.Proofs.Standing
import YieldRules.Proofs.Multiplicity
import YieldRules.Proofs.Hiding
import YieldRules.Proofs.Numbering
import YieldRules.Proofs.Isolation
import YieldRules.Proofs.KeyedListings
import YieldRules.Proofs.Rereading
import YieldRules.Proofs.RecordFields
import YieldRules.Proofs.WrittenModifiers
import YieldRules.Proofs.WrittenStates
import YieldRules.Proofs.LosslessRecords
import YieldRules.Proofs.Monotonicity
import YieldRules.Proofs.Splitting
import YieldRules.Proofs.FirstDefect
import YieldRules.Proofs.InTurn
import YieldRules.Proofs.PartialViews
import YieldRules.Proofs.Selections
import YieldRules.Proofs.CityBuildings
import YieldRules.Proofs.PlayerCounts
import YieldRules.Proofs.UpkeepChannels
import YieldRules.Proofs.PercentLaws
import YieldRules.Proofs.ListArguments
import YieldRules.Proofs.NumberArguments
import YieldRules.Proofs.TagTable
