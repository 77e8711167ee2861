import YieldRules.World.Lookup
import YieldRules.Subject

/-!
# Requirement tests of a world

The tests that a world can decide for itself. A test on a plot fails for a
subject without one, a test that lacks its argument fails, and so does every
test that the world does not know.
-/

namespace YieldRules.World

variable (w : World)

/-- The location of the plot of a subject. -/
def locationOf? (s : Subject) : Option Location :=
  s.plot?.map w.map.locationOf

/-- A property of the plot of a subject equals the value of an argument. -/
def plotMatches (s : Subject) (args : Arguments) (name : String)
    (property : Location → Option DataName) : Bool :=
  match w.locationOf? s, args.value? name with
  | some l, some wanted => property l == some wanted
  | _, _ => false

/-- Something visible of a type stands on the plot of a subject. -/
def plotHasConstructible (s : Subject) (args : Arguments) : Bool :=
  match w.locationOf? s, args.value? "ConstructibleType" with
  | some l, some wanted => (w.visibleAt l).any fun c => w.typeName c == some wanted
  | _, _ => false

/-- The player that a test on players is about: the subject itself, or whom it is tested for. -/
def testedPlayer (player : PlayerId) : Subject → PlayerId
  | .player p => p
  | _ => player

/-- The player has at least as many cities as the argument says. -/
def hasCities (player : PlayerId) (args : Arguments) : Bool :=
  match args.number "Amount" with
  | .ok (some amount) => Float.ofNat (w.citiesOf player).length ≥ amount
  | _ => false

/-- The result of a test by name. -/
def test (player : PlayerId) (s : Subject) (args : Arguments) (name : String) : Bool :=
  match name with
  | "REQUIREMENT_CITY_IS_CAPITAL" => (s.city?.bind w.cities.get?).any (·.capital)
  | "REQUIREMENT_PLOT_IS_LAKE" => (w.locationOf? s).any w.isLake
  | "REQUIREMENT_PLOT_TERRAIN_TYPE_MATCHES" => w.plotMatches s args "TerrainType" w.terrain
  | "REQUIREMENT_PLOT_BIOME_TYPE_MATCHES" => w.plotMatches s args "BiomeType" w.biome
  | "REQUIREMENT_PLOT_HAS_CONSTRUCTIBLE" => w.plotHasConstructible s args
  | "REQUIREMENT_UNIT_IS_COMBAT" => s.unit?.any w.unitIsCombat
  | "REQUIREMENT_PLAYER_HAS_AT_LEAST_NUM_CITIES" => w.hasCities (testedPlayer player s) args
  | _ => false

/-- Whether a requirement holds before it is inverted. References are followed elsewhere, so to a
world a reference is a test that it does not know. -/
def satisfied (player : PlayerId) (s : Subject) (r : Requirement) : Bool :=
  match r.kind with
  | .predicate name => w.test player s r.arguments name
  | .setReference => false

end YieldRules.World
