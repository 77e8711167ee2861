import YieldRules.Upkeep
import YieldRules.Proofs.ArgumentValues
import YieldRules.Proofs.Entries
import YieldRules.Proofs.SoundWorld

/-!
# Upkeep by channel

One pass over the upkeep of a type adds to both channels. What a channel gets out
of it is settled by the flag of the channel, by the magnitude and by the one amount
that is listed for its yield. Neither the other flag nor any other amount enters,
not even one that the magnitude cannot be taken of.
-/

namespace YieldRules

/-- What upkeep is saved in. -/
inductive Channel where
  | gold
  | happiness

namespace Channel

/-- The argument that opens a channel. -/
def flag : Channel → String
  | gold => "Gold"
  | happiness => "Happiness"

/-- The yield that the upkeep of a channel is paid in. -/
def yield : Channel → YieldKind
  | gold => .gold
  | happiness => .happiness

/-- The names of the arguments that a channel depends on. -/
def reads (c : Channel) : List String :=
  [c.flag, "Amount", "Percent"]

end Channel

/-- The saving in a channel. -/
def Saving.on (s : Saving) : Channel → Float
  | .gold => s.gold
  | .happiness => s.happiness

/-- In a channel something is saved when its flag is raised, the arguments have a magnitude, the
amount that is listed for its yield is a cost other than zero, and the magnitude has a delta for
that cost. -/
inductive Saves (args : Arguments) (upkeep : Maintenance) (c : Channel) : Float → Prop where
  | delta {m : Magnitude Float} {amount delta : Float} (raised : args.Gives c.flag "true")
    (sized : args.magnitude = .ok m) (listed : upkeep.get? c.yield = some amount)
    (costs : (-amount == 0) = false) (worth : m.delta 1 (-amount) = .ok delta) :
    Saves args upkeep c delta

variable {args args' : Arguments} {upkeep upkeep' : Maintenance} {c : Channel} {delta : Float}
variable {channels : Channels} {m : Magnitude Float} {s : Saving}

/-! ## Arguments of a channel -/

namespace Arguments

variable {name : String}

theorem flag_iff : args.flag name = true ↔ args.Gives name "true" := by
  rw [flag, beq_iff_eq, value?_eq_some_iff]

theorem number_congr (same : args'.get? name = args.get? name) :
    args'.number name = args.number name := by
  rw [number, number, value?, value?, same]

/-- Without an amount and a percentage the fault lists all arguments, so only magnitudes agree. -/
theorem magnitude_congr (amount : args'.get? "Amount" = args.get? "Amount")
    (percent : args'.get? "Percent" = args.get? "Percent") :
    args'.magnitude = .ok m ↔ args.magnitude = .ok m := by
  rw [magnitude, magnitude, number_congr amount, number_congr percent]
  cases args.number "Amount" with
  | error e => rfl
  | ok x =>
    cases x with
    | some x => rfl
    | none =>
      cases args.number "Percent" with
      | error e => rfl
      | ok y =>
        cases y with
        | some y => rfl
        | none =>
          constructor
          · intro found
            cases found
          · intro found
            cases found

end Arguments

theorem Channels.includes_ofArguments :
    (Channels.ofArguments args).includes c.yield = true ↔ args.Gives c.flag "true" := by
  rw [← Arguments.flag_iff]
  cases c with
  | gold => rfl
  | happiness => rfl

theorem Channels.any_of_includes (opened : channels.includes c.yield = true) :
    channels.any = true := by
  cases c with
  | gold => exact Bool.or_eq_true_iff.mpr (.inl opened)
  | happiness => exact Bool.or_eq_true_iff.mpr (.inr opened)

theorem Saves.raised (saves : Saves args upkeep c delta) : args.Gives c.flag "true" := by
  obtain ⟨raised, _, _, _, _⟩ := saves
  exact raised

/-- What is saved in a channel is settled by what the channel reads. -/
theorem Saves.congr (args_same : ∀ name ∈ c.reads, args'.get? name = args.get? name)
    (amount_same : upkeep'.get? c.yield = upkeep.get? c.yield) :
    Saves args' upkeep' c delta ↔ Saves args upkeep c delta := by
  have flag := args_same c.flag (by simp [Channel.reads])
  have amount := args_same "Amount" (by simp [Channel.reads])
  have percent := args_same "Percent" (by simp [Channel.reads])
  constructor
  · rintro ⟨raised, sized, listed, costs, worth⟩
    exact .delta (by rwa [Arguments.Gives, ← flag])
      ((Arguments.magnitude_congr amount percent).mp sized) (amount_same ▸ listed) costs worth
  · rintro ⟨raised, sized, listed, costs, worth⟩
    exact .delta (by rwa [Arguments.Gives, flag])
      ((Arguments.magnitude_congr amount percent).mpr sized) (amount_same ▸ listed) costs worth

/-! ## One entry of the upkeep -/

namespace Saving

theorem addTo_on_same : (s.addTo c.yield delta).on c = s.on c + delta := by
  cases c with
  | gold => rfl
  | happiness => rfl

theorem addTo_on_other {y : YieldKind} (other : y ≠ c.yield) :
    (s.addTo y delta).on c = s.on c := by
  cases c with
  | gold => cases y <;> first | rfl | exact False.elim (other rfl)
  | happiness => cases y <;> first | rfl | exact False.elim (other rfl)

/-- An entry of another yield leaves a channel as it is, whatever comes of it. -/
theorem addEntry_on_other {entry : YieldKind × Float} (other : entry.1 ≠ c.yield) :
    (addEntry channels m s entry).on c = s.on c := by
  rw [addEntry]
  split
  · rfl
  · split
    · exact addTo_on_other other
    · rfl

theorem addEntry_on_worth {amount : Float} (opened : channels.includes c.yield = true)
    (costs : (-amount == 0) = false) (worth : m.delta 1 (-amount) = .ok delta) :
    (addEntry channels m s (c.yield, amount)).on c = s.on c + delta := by
  simp only [addEntry, opened, costs, worth, Bool.not_true, Bool.or_self, Bool.false_eq_true,
    if_false, addTo_on_same]

theorem addEntry_on_worthless {amount : Float}
    (worthless : ∀ delta, channels.includes c.yield = true → (-amount == 0) = false →
      m.delta 1 (-amount) ≠ .ok delta) :
    (addEntry channels m s (c.yield, amount)).on c = s.on c := by
  rw [addEntry]
  split
  · rfl
  · rename_i counted
    simp only [Bool.or_eq_true, Bool.not_eq_true', not_or, Bool.not_eq_true,
      Bool.not_eq_false] at counted
    split
    · rename_i worth
      exact False.elim (worthless _ counted.2 counted.1 worth)
    · rfl

end Saving

/-! ## The pass over the upkeep -/

namespace Context

variable {ctx : Context} {city : CityId} {t : ConstructibleType} {modifier : Modifier}

theorem saving_eq_pass (sized : modifier.arguments.magnitude = .ok m)
    (opened : (Channels.ofArguments modifier.arguments).any = true) :
    ctx.saving city t modifier = (ctx.world.maintenance city t.name).entries.foldl
      (Saving.addEntry (Channels.ofArguments modifier.arguments) m) .zero := by
  simp only [saving, opened, if_true, sized]

theorem saving_on_saves
    (saves : Saves modifier.arguments (ctx.world.maintenance city t.name) c delta) :
    (ctx.saving city t modifier).on c = 0 + delta := by
  obtain ⟨raised, sized, listed, costs, worth⟩ := saves
  have opened := Channels.includes_ofArguments.mpr raised
  rw [saving_eq_pass sized (Channels.any_of_includes opened)]
  obtain ⟨before, untouched, pass⟩ := SortedMap.foldl_of_listed (Saving.on · c)
    (fun _ _ other => Saving.addEntry_on_other other) listed .zero
  rw [pass, Saving.addEntry_on_worth opened costs worth, untouched]
  cases c with
  | gold => rfl
  | happiness => rfl

theorem saving_on_saves_nothing (nothing : ∀ delta,
    ¬ Saves modifier.arguments (ctx.world.maintenance city t.name) c delta) :
    (ctx.saving city t modifier).on c = 0 := by
  have zero : Saving.zero.on c = 0 := by
    cases c with
    | gold => rfl
    | happiness => rfl
  cases open_ : (Channels.ofArguments modifier.arguments).any with
  | false => simp only [saving, open_, Bool.false_eq_true, if_false, zero]
  | true =>
    cases sized : modifier.arguments.magnitude with
    | error e => simp only [saving, open_, if_true, sized, zero]
    | ok m =>
      rw [saving_eq_pass sized open_]
      cases listed : (ctx.world.maintenance city t.name).get? c.yield with
      | none =>
        exact (SortedMap.foldl_of_unlisted (Saving.on · c)
          (fun _ _ other => Saving.addEntry_on_other other) listed .zero).trans zero
      | some amount =>
        obtain ⟨before, untouched, pass⟩ := SortedMap.foldl_of_listed (Saving.on · c)
          (fun _ _ other => Saving.addEntry_on_other other) listed .zero
        have worthless : ∀ delta,
            (Channels.ofArguments modifier.arguments).includes c.yield = true →
            (-amount == 0) = false → m.delta 1 (-amount) ≠ .ok delta := by
          intro delta opened costs worth
          exact nothing delta
            (.delta (Channels.includes_ofArguments.mp opened) sized listed costs worth)
        rw [pass, Saving.addEntry_on_worthless worthless, untouched, zero]

/-- Two savings are the same in a channel when all that the channel reads is the same. -/
theorem saving_on_congr {ctx' : Context} {city' : CityId} {t' : ConstructibleType}
    {modifier' : Modifier}
    (args_same : ∀ name ∈ c.reads,
      modifier'.arguments.get? name = modifier.arguments.get? name)
    (amount_same : (ctx'.world.maintenance city' t'.name).get? c.yield =
      (ctx.world.maintenance city t.name).get? c.yield) :
    (ctx'.saving city' t' modifier').on c = (ctx.saving city t modifier).on c := by
  by_cases something : ∃ delta,
      Saves modifier.arguments (ctx.world.maintenance city t.name) c delta
  · obtain ⟨delta, saves⟩ := something
    rw [saving_on_saves saves, saving_on_saves ((Saves.congr args_same amount_same).mpr saves)]
  · have nothing := not_exists.mp something
    rw [saving_on_saves_nothing nothing]
    apply saving_on_saves_nothing
    intro delta saves
    exact nothing delta ((Saves.congr args_same amount_same).mp saves)

/-- Each channel of a saving is the delta for the one amount that is listed for its yield, and zero
where the channel saves nothing. Other contexts, cities, types and modifiers that agree on what the
channel reads save the same in it, however they differ in the other flag and in all other amounts.
With both flags the saving is made of the two savings with one of them. -/
theorem saving_by_channel (ctx : Context) (city : CityId) (t : ConstructibleType)
    (modifier : Modifier) :
    (∀ c,
      (∀ delta, Saves modifier.arguments (ctx.world.maintenance city t.name) c delta →
        (ctx.saving city t modifier).on c = 0 + delta) ∧
      ((∀ delta, ¬ Saves modifier.arguments (ctx.world.maintenance city t.name) c delta) →
        (ctx.saving city t modifier).on c = 0) ∧
      (∀ (ctx' : Context) (city' : CityId) (t' : ConstructibleType) (modifier' : Modifier),
        (∀ name ∈ c.reads, modifier'.arguments.get? name = modifier.arguments.get? name) →
        (ctx'.world.maintenance city' t'.name).get? c.yield =
          (ctx.world.maintenance city t.name).get? c.yield →
        (ctx'.saving city' t' modifier').on c = (ctx.saving city t modifier).on c)) ∧
    ∀ goldOnly happinessOnly : Modifier,
      (∀ name, name ≠ "Happiness" →
        goldOnly.arguments.get? name = modifier.arguments.get? name) →
      (∀ name, name ≠ "Gold" →
        happinessOnly.arguments.get? name = modifier.arguments.get? name) →
      ¬ goldOnly.arguments.Gives "Happiness" "true" →
      ¬ happinessOnly.arguments.Gives "Gold" "true" →
      (ctx.saving city t goldOnly).happiness = 0 ∧ (ctx.saving city t happinessOnly).gold = 0 ∧
      ctx.saving city t modifier =
        ⟨(ctx.saving city t goldOnly).gold, (ctx.saving city t happinessOnly).happiness⟩ := by
  constructor
  · intro c
    refine ⟨fun _ => saving_on_saves, saving_on_saves_nothing, ?_⟩
    intro ctx' city' t' modifier' args_same amount_same
    exact saving_on_congr args_same amount_same
  · intro goldOnly happinessOnly otherwise_gold otherwise_happiness noHappiness noGold
    have gold : (ctx.saving city t goldOnly).gold = (ctx.saving city t modifier).gold := by
      apply saving_on_congr (c := .gold) _ rfl
      intro name asked
      apply otherwise_gold
      rintro rfl
      revert asked
      decide
    have happiness : (ctx.saving city t happinessOnly).happiness =
        (ctx.saving city t modifier).happiness := by
      apply saving_on_congr (c := .happiness) _ rfl
      intro name asked
      apply otherwise_happiness
      rintro rfl
      revert asked
      decide
    refine ⟨?_, ?_, ?_⟩
    · exact saving_on_saves_nothing (c := .happiness) fun _ saves => noHappiness saves.raised
    · exact saving_on_saves_nothing (c := .gold) fun _ saves => noGold saves.raised
    · rw [gold, happiness]

end Context

namespace Harbour

/-- Upkeep of a market: two gold, and happiness that it brings and that no percentage is taken
of. -/
def marketUpkeep : Maintenance :=
  ((SortedMap.insert {} .gold (-2)).insert .happiness 3).insert .food (-1)

/-- The world with markets that are paid for in its city. -/
def marketWorld : World :=
  { world with
    cities := SortedMap.insert {} city
      ⟨.first, "", .origin, true, [], SortedMap.insert {} "BUILDING_MARKET" marketUpkeep⟩ }

/-- A modifier that halves upkeep in both channels. -/
def halving : Modifier :=
  (Modifier.ofEffect .playerCities "EFFECT").withArguments
    (((Arguments.set {} "Percent" "-50").set "Gold" "true").set "Happiness" "true")

/-- What a modifier saves on a market. -/
def marketSaving (m : Modifier) : Saving :=
  (marketWorld.context .default).saving city (.ofName "BUILDING_MARKET") m

/-- Half of the gold is saved. Nothing can be saved in happiness, with or without its flag, and
that takes nothing from the gold. -/
theorem saving_by_channel_harbour :
    Saves halving.arguments marketUpkeep .gold (-1) ∧ (marketSaving halving).gold = 0 + -1 ∧
    (∀ delta, ¬ Saves halving.arguments marketUpkeep .happiness delta) ∧
    (marketSaving halving).happiness = 0 ∧
    marketSaving halving =
      ⟨(marketSaving (halving.withArguments (halving.arguments.set "Happiness" ""))).gold,
        (marketSaving (halving.withArguments (halving.arguments.set "Gold" "false"))).happiness⟩ := by
  have table : (marketWorld.context .default).world.maintenance city
      (ConstructibleType.ofName "BUILDING_MARKET").name = marketUpkeep :=
    SortedMap.ext_entries (by decide +kernel)
  have sized : halving.arguments.magnitude = .ok (.percent (-50)) := by decide +kernel
  have gold : Saves halving.arguments marketUpkeep .gold (-1) :=
    .delta (Arguments.value?_eq_some_iff.mp rfl) sized (show marketUpkeep.get? .gold = some (-2)
      from rfl) (by decide +kernel) (by decide +kernel)
  have happiness : ∀ delta, ¬ Saves halving.arguments marketUpkeep .happiness delta := by
    rintro delta ⟨_, sized', listed, _, worth⟩
    have gain : marketUpkeep.get? .happiness = some 3 := rfl
    obtain rfl := Except.ok.inj (sized.symm.trans sized')
    obtain rfl := Option.some.inj (gain.symm.trans listed)
    have refused : (Magnitude.percent (-50 : Float)).delta 1 (-3) = .error ⟨-3⟩ := by
      decide +kernel
    rw [refused] at worth
    cases worth
  have channels := Context.saving_by_channel (marketWorld.context .default) city
    (.ofName "BUILDING_MARKET") halving
  rw [table] at channels
  refine ⟨gold, (channels.1 .gold).1 _ gold, happiness, (channels.1 .happiness).2.1 happiness, ?_⟩
  refine (channels.2 _ _ ?_ ?_ ?_ ?_).2.2
  · intro name differs
    exact Arguments.get?_set_of_ne differs
  · intro name differs
    exact Arguments.get?_set_of_ne differs
  · rintro ⟨_, a, there, value⟩
    obtain rfl := Option.some.inj ((Arguments.get?_set_self ..).symm.trans there)
    exact absurd value (by decide)
  · rintro ⟨_, a, there, value⟩
    obtain rfl := Option.some.inj ((Arguments.get?_set_self ..).symm.trans there)
    exact absurd value (by decide)

end Harbour

end YieldRules
