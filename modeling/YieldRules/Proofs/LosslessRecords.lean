import YieldRules.Tags
import YieldRules.Proofs.WrittenModifiers
import YieldRules.Proofs.WrittenStates

/-!
# Lossless records

Whatever document a record was read from, what is written of the record is read as
the same record, and is written in the same way again. Columns without a value and
names that a record lacks are left out of it; all other fields are there, those
that the document left out with their defaults and absent ones as null.
-/

namespace YieldRules

section

variable {α κ : Type} [Serial α] {canonical : α → Prop}

/-- Nothing is lost between reading a document, writing what was read and reading that. Of all
values just the canonical ones are read again. -/
structure Lossless (canonical : α → Prop) : Prop where
  reread : ∀ {n : Node} {x : α}, ofNode? n = some x → ofNode? (toNode x) = some x
  rewritten : ∀ {n : Node} {x : α}, ofNode? n = some x →
    (ofNode? (toNode x) : Option α).map toNode = some (toNode x)
  reread_iff : ∀ x : α, ofNode? (toNode x) = some x ↔ canonical x
  json : ∀ x : α, (toNode x).IsJson

/-- A lossless record with the fields that are written of it, those without a node left out, and
the defaults of the fields that a document may leave out. -/
structure RecordFormat (canonical : α → Prop) (cells : α → List (String × Option Node))
    (defaults : List (String × Node)) : Prop extends Lossless canonical where
  written : ∀ x, toNode x = .record (cells x)
  filledIn : ∀ d ∈ defaults, MayBeLeftOut α d.1 d.2

/-- Names are kept, and values are found by their names except those that keep the name of a known
one. -/
structure KeepsNames (ofName : String → κ) (name : κ → String) (known : List κ)
    (other : String → κ) : Prop where
  all : ∀ k, k ∈ known ∨ ∃ s, k = other s
  name_ofName : ∀ s, name (ofName s) = s
  ofName_name_iff : ∀ k, ofName (name k) = k ↔ ¬ ∃ j ∈ known, k = other (name j)

theorem Faithful.readsExactly [Faithful α] : ReadsExactly fun _ : α => True where
  canonical_of_read _ := trivial
  rereads {x} _ := Faithful.rereads x

theorem ReadsExactly.lossless [WritesJson α] (reads : ReadsExactly canonical) :
    Lossless canonical where
  reread found := reads.rereads (reads.canonical_of_read found)
  rewritten := by
    intro n x found
    have back : ofNode? (toNode x) = some x := reads.rereads (reads.canonical_of_read found)
    rw [back, Option.map_some]
  reread_iff x := ⟨reads.canonical_of_read, reads.rereads⟩
  json := WritesJson.isJson

theorem ReadsExactly.format [WritesJson α] {cells : α → List (String × Option Node)}
    {defaults : List (String × Node)} (reads : ReadsExactly canonical) (written : WrittenAs cells)
    (leftOut : ∀ {d}, d ∈ defaults → MayBeLeftOut α d.1 d.2) :
    RecordFormat canonical cells defaults where
  toLossless := reads.lossless
  written := written.toNode_eq
  filledIn _ := leftOut

theorem HasNames.keepsNames {ofName : String → κ} {name : κ → String} {known : List κ}
    {other : String → κ} (names : HasNames known name other)
    (ofName_eq : ∀ s, ofName s = byName known name other s) :
    KeepsNames ofName name known other where
  all := names.all
  name_ofName s := by rw [ofName_eq, names.name_byName]
  ofName_name_iff k := by rw [ofName_eq, names.byName_name_iff]

end

/-- No type of record loses anything. Every value of most types can be read; requirements, sets and
modifiers need names that stand for what they name, and options a depth of 64 bits. -/
structure GameRecords : Prop where
  argument : RecordFormat (fun _ => True) Argument.cells Argument.defaults
  arguments : Lossless fun _ : Arguments => True
  requirement : RecordFormat Requirement.Canonical Requirement.cells Requirement.defaults
  requirementSet :
    RecordFormat RequirementSet.Canonical RequirementSet.cells RequirementSet.defaults
  modifier : RecordFormat Modifier.Canonical Modifier.cells Modifier.defaults
  constructibleType :
    RecordFormat (fun _ => True) ConstructibleType.cells ConstructibleType.defaults
  subject : RecordFormat (fun _ => True) Subject.cells []
  feature : RecordFormat (fun _ => True) Feature.cells Feature.defaults
  plot : RecordFormat (fun _ => True) PlotState.cells PlotState.defaults
  unit : RecordFormat (fun _ => True) UnitState.cells UnitState.defaults
  constructible :
    RecordFormat (fun _ => True) ConstructibleState.cells ConstructibleState.defaults
  tags : Lossless fun _ : Tags => True
  options : RecordFormat Options.Canonical Options.cells Options.defaults

/-- Whatever is read as a record is read again from what is written of it, for all records whose
numbers are whole. What is absent is written as null where it is not left out. Collections, types of
sets and kinds of requirements keep every name. -/
theorem records_survive_rereading :
    GameRecords ∧
    (∀ (α : Type) [Serial α], toNode (none : Option α) = .null) ∧
    KeepsNames Collection.ofName Collection.name Collection.known .other ∧
    KeepsNames RequirementSetType.ofName RequirementSetType.name [.all, .any] .other ∧
    KeepsNames RequirementKind.ofName RequirementKind.name [.setReference] .predicate := by
  refine ⟨?_, fun _ _ => rfl, Collection.hasNames.keepsNames Collection.ofName_eq_byName,
    RequirementSetType.hasNames.keepsNames RequirementSetType.ofName_eq_byName,
    RequirementKind.hasNames.keepsNames RequirementKind.ofName_eq_byName⟩
  constructor
  case argument => exact Faithful.readsExactly.format Argument.writtenAs Argument.mayBeLeftOut
  case arguments => exact Faithful.readsExactly.lossless
  case requirement =>
    exact Requirement.readsExactly.format Requirement.writtenAs Requirement.mayBeLeftOut
  case requirementSet =>
    exact RequirementSet.readsExactly.format RequirementSet.writtenAs RequirementSet.mayBeLeftOut
  case modifier => exact Modifier.readsExactly.format Modifier.writtenAs Modifier.mayBeLeftOut
  case constructibleType =>
    exact Faithful.readsExactly.format ConstructibleType.writtenAs ConstructibleType.mayBeLeftOut
  case subject => exact Faithful.readsExactly.format Subject.writtenAs fun listed => nomatch listed
  case feature => exact Faithful.readsExactly.format Feature.writtenAs Feature.mayBeLeftOut
  case plot => exact Faithful.readsExactly.format PlotState.writtenAs PlotState.mayBeLeftOut
  case unit => exact Faithful.readsExactly.format UnitState.writtenAs UnitState.mayBeLeftOut
  case constructible =>
    exact Faithful.readsExactly.format ConstructibleState.writtenAs
      ConstructibleState.mayBeLeftOut
  case tags => exact Faithful.readsExactly.lossless
  case options => exact Options.readsExactly.format Options.writtenAs Options.mayBeLeftOut

namespace Harbour

/-- A modifier as it stands in a document: without a name and an effect, and with an owner set that
is told to be absent. -/
def cheaperBuildings : List (Key × Node) :=
  [(.member "Arguments", .table [(.member "Percent", .table [(.member "Value", .text "-20")])]),
    (.member "CollectionType", .text "COLLECTION_PLAYER_CITIES"),
    (.member "SubjectRequirementSet", .table [
      (.member "RequirementSetType", .text "REQUIREMENTSET_TEST_ANY"),
      (.member "Requirements", .list [.table [
        (.member "RequirementType", .text "REQUIREMENT_CITY_IS_CAPITAL"),
        (.member "Inverse", .bool true)]])]),
    (.member "OwnerRequirementSet", .null)]

def cheaperBuildingsOutsideCapital : Modifier :=
  ((Modifier.ofEffect .playerCities "").withArguments
    (Arguments.set {} "Percent" "-20")).withSubjectRequirements
      (.anyOf [(Requirement.ofKind (.predicate "REQUIREMENT_CITY_IS_CAPITAL")).inverted])

theorem records_survive_rereading_harbour :
    ofNode? (.table cheaperBuildings) = some cheaperBuildingsOutsideCapital ∧
    ofNode? (toNode cheaperBuildingsOutsideCapital) = some cheaperBuildingsOutsideCapital ∧
    ofNode? (.table (cheaperBuildings ++ [(.member "EffectType", .text "")])) =
      some cheaperBuildingsOutsideCapital := by
  obtain ⟨records, _⟩ := records_survive_rereading
  have read : ofNode? (.table cheaperBuildings) = some cheaperBuildingsOutsideCapital := rfl
  have listed : ("EffectType", .text "") ∈ Modifier.defaults := by
    simp [Modifier.defaults, toNode]
  have lacking : ∀ e ∈ cheaperBuildings ++ [], e.1.text? ≠ some "EffectType" := by
    simp [cheaperBuildings, Key.text?]
  exact ⟨read, records.modifier.reread read,
    (records.modifier.filledIn _ listed cheaperBuildings [] lacking).trans read⟩

/-- A collection that keeps the name of a known one is read as the known one. -/
example : Collection.ofName (Collection.other "COLLECTION_OWNER").name = .owner := by
  decide

end Harbour

end YieldRules
