import YieldRules.Preview.Report
import YieldRules.Proofs.Multiplicity

/-!
# Reports keep definitions apart

A report tells of each modifier and of each rule on its own. What it says of one
is settled by that definition, the player and the rest of the world; no other
modifier or rule enters, not even one that cannot be resolved. The relation
`Tells` says what the block of a modifier must be without saying how it is
computed, and there is exactly one such block.
-/

namespace YieldRules

/-- The world without its modifiers and its warehouse rules. -/
def World.withoutEffects (w : World) : World :=
  { w with modifiers := [], warehouseRules := [] }

/-- The world with other modifiers and other warehouse rules. -/
def World.withEffects (w : World) (modifiers : List Modifier) (rules : List Warehouse.Rule) :
    World :=
  { w with modifiers, warehouseRules := rules }

namespace Preview

open Text Decimal

variable {ctx : Context} {player : PlayerId} {m : Modifier} {subjects : List Subject}
variable {lines : List String}

/-! ## What is told of a modifier -/

/-- The line of a city: what a modifier saves on its buildings, added up from the first to the last
for each channel. -/
def sumLine (ctx : Context) (m : Modifier) (city : CityId) : String :=
  let savings := (ctx.buildings city).map fun b => ctx.saving city b.definition m
  "      city " ++ padRight 4 (toString city.raw) ++
    " gold " ++ signed ((savings.map (·.gold)).foldl (· + ·) 0) ++
    "  happiness " ++ signed ((savings.map (·.happiness)).foldl (· + ·) 0)

/-- A modifier lowers upkeep of one kind or the other. -/
def LowersUpkeep (m : Modifier) : Prop :=
  m.arguments.flag "Gold" = true ∨ m.arguments.flag "Happiness" = true

/-- A modifier asks for a tag or for a type to be counted. -/
def Counts (m : Modifier) : Prop :=
  (m.arguments.value? "Tag").isSome = true ∨
    (m.arguments.value? "ConstructibleType").isSome = true

/-- The lines on the effect of a modifier. -/
inductive TellsEffect (ctx : Context) (player : PlayerId) (m : Modifier)
    (subjects : List Subject) : List String → Prop where
  | savings (lowers : LowersUpkeep m) :
    TellsEffect ctx player m subjects (subjects.filterMap fun s => s.city?.map (sumLine ctx m))
  | counted {delta : Float} (plain : ¬ LowersUpkeep m) (counts : Counts m)
    (worth : m.arguments.delta (Float.ofNat (ctx.countForPlayer player m)) 0 = .ok delta) :
    TellsEffect ctx player m subjects
      [s!"      {ctx.countForPlayer player m} counted -> " ++ signed delta]
  | countedWorthless {e : Fault} (plain : ¬ LowersUpkeep m) (counts : Counts m)
    (worthless : m.arguments.delta (Float.ofNat (ctx.countForPlayer player m)) 0 = .error e) :
    TellsEffect ctx player m subjects
      [s!"      {ctx.countForPlayer player m} counted, no magnitude: {e.message}"]
  | each {delta : Float} (plain : ¬ LowersUpkeep m) (countless : ¬ Counts m)
    (worth : m.arguments.delta 1 0 = .ok delta) :
    TellsEffect ctx player m subjects ["      " ++ signed delta ++ " each"]
  | nothing {e : Fault} (plain : ¬ LowersUpkeep m) (countless : ¬ Counts m)
    (worthless : m.arguments.delta 1 0 = .error e) :
    TellsEffect ctx player m subjects []

/-- The lines on a modifier: one on a fault, or one on its subjects and those on its effect. -/
inductive Tells (ctx : Context) (player : PlayerId) (m : Modifier) : List String → Prop where
  | fault {e : Fault} (failed : ctx.subjects player m none = .error e) :
    Tells ctx player m [s!"  {padRight 32 m.label} error: {e.message}"]
  | subjects {subjects : List Subject} {effect : List String}
    (resolved : ctx.subjects player m none = .ok subjects)
    (tells : TellsEffect ctx player m subjects effect) :
    Tells ctx player m
      (s!"  {padRight 32 m.label} {m.collection.name} -> {subjects.length} subject(s)" :: effect)

/-! ## The one block of a modifier -/

/-- The two channels are added up side by side. -/
theorem foldl_add_channels (savings : List Saving) (s : Saving) :
    savings.foldl .add s =
      ⟨(savings.map (·.gold)).foldl (· + ·) s.gold,
        (savings.map (·.happiness)).foldl (· + ·) s.happiness⟩ := by
  induction savings generalizing s with
  | nil => rfl
  | cons t savings ih =>
    rw [List.foldl_cons, ih]
    rfl

theorem savingLine_eq_sumLine (ctx : Context) (m : Modifier) :
    savingLine ctx m = sumLine ctx m := by
  funext city
  rw [savingLine, Context.citySaving, foldl_add_channels]
  rfl

theorem lowersUpkeep_iff : (Channels.ofArguments m.arguments).any = true ↔ LowersUpkeep m :=
  Bool.or_eq_true_iff

theorem counts_iff : m.arguments.countArgument?.isSome = true ↔ Counts m := by
  rw [Arguments.countArgument?, Counts]
  cases m.arguments.value? "Tag" <;> simp

theorem TellsEffect.eq_effectLines (tells : TellsEffect ctx player m subjects lines) :
    lines = effectLines ctx player m subjects := by
  rw [effectLines]
  cases tells with
  | savings lowers =>
    rw [if_pos (lowersUpkeep_iff.mpr lowers), List.map_filterMap, savingLine_eq_sumLine]
  | counted plain counts worth | countedWorthless plain counts worth =>
    rw [if_neg (mt lowersUpkeep_iff.mp plain), if_pos (counts_iff.mpr counts), countLine, worth]
  | each plain countless worth | nothing plain countless worth =>
    rw [if_neg (mt lowersUpkeep_iff.mp plain), if_neg (mt counts_iff.mp countless), worth]

theorem exists_tellsEffect (ctx : Context) (player : PlayerId) (m : Modifier)
    (subjects : List Subject) : ∃ lines, TellsEffect ctx player m subjects lines := by
  by_cases lowers : LowersUpkeep m
  · exact ⟨_, .savings lowers⟩
  · by_cases counts : Counts m
    · cases worth : m.arguments.delta (Float.ofNat (ctx.countForPlayer player m)) 0 with
      | ok delta => exact ⟨_, .counted lowers counts worth⟩
      | error e => exact ⟨_, .countedWorthless lowers counts worth⟩
    · cases worth : m.arguments.delta 1 0 with
      | ok delta => exact ⟨_, .each lowers counts worth⟩
      | error e => exact ⟨_, .nothing lowers counts worth⟩

theorem Tells.eq_modifierBlock (tells : Tells ctx player m lines) :
    lines = modifierBlock ctx player m := by
  rw [modifierBlock]
  cases tells with
  | fault failed =>
    rw [failed]
    simp [toString, String.append_assoc]
  | subjects resolved tells =>
    rw [resolved, tells.eq_effectLines]
    simp [toString, String.append_assoc]

theorem exists_tells (ctx : Context) (player : PlayerId) (m : Modifier) :
    ∃ lines, Tells ctx player m lines := by
  cases outcome : ctx.subjects player m none with
  | error e => exact ⟨_, .fault outcome⟩
  | ok subjects =>
    obtain ⟨lines, tells⟩ := exists_tellsEffect ctx player m subjects
    exact ⟨_, .subjects outcome tells⟩

theorem tells_iff : Tells ctx player m lines ↔ lines = modifierBlock ctx player m := by
  constructor
  · exact Tells.eq_modifierBlock
  · rintro rfl
    obtain ⟨lines, tells⟩ := exists_tells ctx player m
    exact tells.eq_modifierBlock ▸ tells

/-! ## Reports -/

/-- Every city of a player is listed with its recorded name. -/
theorem cityBlocks_of_player (w : World) (options : Options) (player : PlayerId)
    (rules : List Warehouse.Rule) :
    ((w.context options).world.cities player).flatMap
        (cityBlock ctx (fun city => ((w.cities.get? city).map (·.name)).getD "?") rules) =
      (w.ownCities player).flatMap fun e =>
        s!"  city {e.1.raw} {e.2.name}" :: rules.map (ruleLine ctx e.1) := by
  have cities : (w.context options).world.cities player = (w.ownCities player).map (·.1) :=
    w.citiesOf_eq_map player
  rw [cities, List.flatMap_map]
  apply List.flatMap_congr
  intro e own
  obtain ⟨listed, _⟩ := World.mem_ownCities.mp own
  rw [cityBlock, listed, Option.map_some, Option.getD_some]

/-- What a report tells of a modifier or of a rule depends on that one, the player and the world
without any of them. Whatever the other modifiers and rules are, the report has these blocks in the
order in which the modifiers are listed, and for each city of the player these lines in the order
of the rules. -/
theorem report_isolates_definitions (w : World) (player : PlayerId) (options : Options) :
    ∃ (block : Modifier → List String) (line : CityId → Warehouse.Rule → String),
      (∀ m lines, Tells (w.withoutEffects.context options) player m lines ↔ lines = block m) ∧
      (∀ city r, line city r =
        "      " ++ padRight 24 r.id ++ " " ++ padRight 16 (r.yieldKind.getD "-") ++ " " ++
          signed (r.amount (w.withoutEffects.context options) city) ++
          s!"  ({(r.linkedBuildings (w.withoutEffects.context options) city).length}" ++
            " linked structure(s))") ∧
      (∀ before m after rules,
        report player (w.withEffects (before ++ m :: after) rules) options .modifiers =
          report player (w.withEffects before []) options .modifiers ++ block m ++
            after.flatMap block) ∧
      ∀ modifiers rules,
        report player (w.withEffects modifiers rules) options .modifiers =
          s!"Modifiers (player {player.index})" :: modifiers.flatMap block ∧
        report player (w.withEffects modifiers rules) options .warehouse =
          s!"Warehouse yields (player {player.index})" ::
            (w.ownCities player).flatMap (fun e =>
              s!"  city {e.1.raw} {e.2.name}" :: rules.map (line e.1)) ∧
        report player (w.withEffects modifiers rules) options .everything =
          report player (w.withEffects modifiers rules) options .modifiers ++ [""] ++
            report player (w.withEffects modifiers rules) options .warehouse := by
  -- The context reads neither list, so every section is one of the bare world.
  have section_eq (modifiers : List Modifier) (rules : List Warehouse.Rule) :
      report player (w.withEffects modifiers rules) options .modifiers =
        s!"Modifiers (player {player.index})" ::
          modifiers.flatMap (modifierBlock (w.withoutEffects.context options) player) := rfl
  refine ⟨modifierBlock (w.withoutEffects.context options) player,
    ruleLine (w.withoutEffects.context options), fun m lines => tells_iff, ?_, ?_, ?_⟩
  · intro city r
    simp [ruleLine, toString, String.append_assoc]
  · intro before m after rules
    rw [section_eq, section_eq, List.flatMap_append, List.flatMap_cons, List.cons_append,
      List.cons_append, List.append_assoc]
  · intro modifiers rules
    have cities : report player (w.withEffects modifiers rules) options .warehouse = _ :=
      congrArg (_ :: ·) (cityBlocks_of_player w options player rules)
    exact ⟨section_eq modifiers rules, cities, rfl⟩

end Preview

namespace Harbour

/-- A modifier that cannot be resolved takes one line and leaves the next one as it is. -/
example :
    Preview.report .first (world.withEffects [onNameless .playerPlots, onLakes .playerPlots] [])
        .default .modifiers =
      ["Modifiers (player 0)",
        "  EFFECT                           error: missing required argument: RequirementSetId",
        "  EFFECT                           COLLECTION_PLAYER_PLOT_YIELDS -> 4 subject(s)"] := by
  rfl

end Harbour

end YieldRules
