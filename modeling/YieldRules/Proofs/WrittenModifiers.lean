import YieldRules.Modifier
import YieldRules.Proofs.RecordFields

/-!
# Written modifiers

Collections, types of sets and kinds of requirements are written as names. A name is
kept whether it is known or not, but a value that keeps the name of a known one is
read as the known one. But for that, modifiers and requirements are read again from
what is written of them.
-/

namespace YieldRules

/-! ## Names of alternatives -/

/-- The known value with a name, or else the value that keeps the name. -/
def byName {κ : Type} (known : List κ) (name : κ → String) (other : String → κ) (s : String) : κ :=
  (known.find? fun k => name k == s).getD (other s)

/-- Every value is known by a name of its own or keeps some name. -/
structure HasNames {κ : Type} (known : List κ) (name : κ → String) (other : String → κ) :
    Prop where
  distinct : (known.map name).Nodup
  keeps : ∀ s, name (other s) = s
  apart : ∀ s, other s ∉ known
  all : ∀ k, k ∈ known ∨ ∃ s, k = other s

namespace HasNames

variable {κ : Type} {known : List κ} {name : κ → String} {other : String → κ} {k : κ}
variable (names : HasNames known name other)
include names

theorem name_byName (s : String) : name (byName known name other s) = s := by
  rw [byName]
  cases found : known.find? fun k => name k == s with
  | none => exact names.keeps s
  | some k => exact ((find?_eq_some_iff_of_nodup names.distinct).mp found).2

theorem byName_of_known (listed : k ∈ known) : byName known name other (name k) = k := by
  have found : (known.find? fun j => name j == name k) = some k :=
    (find?_eq_some_iff_of_nodup names.distinct).mpr ⟨listed, rfl⟩
  rw [byName, found, Option.getD_some]

omit names in
theorem byName_of_unknown {s : String} (unknown : ∀ k ∈ known, name k ≠ s) :
    byName known name other s = other s := by
  have missing : (known.find? fun k => name k == s) = none := by
    apply List.find?_eq_none.mpr
    intro k listed same
    exact unknown k listed (beq_iff_eq.mp same)
  rw [byName, missing, Option.getD_none]

/-- Only a value that keeps the name of a known one is not found by its name. -/
theorem byName_name_iff : byName known name other (name k) = k ↔
    ¬ ∃ j ∈ known, k = other (name j) := by
  constructor
  · rintro found ⟨j, listed, rfl⟩
    rw [names.keeps, names.byName_of_known listed] at found
    exact names.apart _ (found ▸ listed)
  · intro unlike
    rcases names.all k with listed | ⟨s, rfl⟩
    · exact names.byName_of_known listed
    · rw [names.keeps]
      apply byName_of_unknown
      rintro j listed rfl
      exact unlike ⟨j, listed, rfl⟩

end HasNames

/-- A type whose values are written as their names. -/
class WrittenAsName (κ : Type) [Serial κ] where
  name : κ → String
  ofName : String → κ
  name_ofName : ∀ s, name (ofName s) = s
  toNode_eq : ∀ k, toNode k = .text (name k)
  ofNode?_eq : ∀ n, ofNode? n = (ofNode? n : Option String).map ofName

section

variable {κ : Type} [Serial κ] [WrittenAsName κ]

/-- A value is read again when it is found by its name, as every value is that was read. -/
theorem readsExactly_name : ReadsExactly fun k : κ =>
    WrittenAsName.ofName (WrittenAsName.name k) = k where
  canonical_of_read {n k} read := by
    rw [WrittenAsName.ofNode?_eq] at read
    obtain ⟨s, _, rfl⟩ := Option.map_eq_some_iff.mp read
    rw [WrittenAsName.name_ofName]
  rereads {k} found := by
    rw [Rereads, WrittenAsName.toNode_eq, WrittenAsName.ofNode?_eq]
    exact congrArg some found

instance : WritesJson κ where
  isJson k := by
    rw [WrittenAsName.toNode_eq]
    exact .text _

end

namespace Collection

theorem hasNames : HasNames known name other where
  distinct := by decide
  keeps _ := rfl
  apart s listed := by simp [known] at listed
  all c := by cases c <;> simp [known]

theorem ofName_eq_byName (s : String) : ofName s = byName known name other s := rfl

instance : WrittenAsName Collection where
  name := name
  ofName := ofName
  name_ofName := hasNames.name_byName
  toNode_eq _ := rfl
  ofNode?_eq _ := rfl

end Collection

namespace RequirementSetType

theorem hasNames : HasNames [all, any] name other where
  distinct := by decide
  keeps _ := rfl
  apart s listed := by simp at listed
  all t := by cases t <;> simp

theorem ofName_eq_byName (s : String) : ofName s = byName [all, any] name other s := by
  rw [ofName]
  split_ifs with isAll isAny
  · exact isAll ▸ (hasNames.byName_of_known (k := all) (by simp)).symm
  · exact isAny ▸ (hasNames.byName_of_known (k := any) (by simp)).symm
  · refine (HasNames.byName_of_unknown ?_).symm
    simp [name, Ne.symm isAll, Ne.symm isAny]

instance : WrittenAsName RequirementSetType where
  name := name
  ofName := ofName
  name_ofName s := ofName_eq_byName s ▸ hasNames.name_byName s
  toNode_eq _ := rfl
  ofNode?_eq _ := rfl

end RequirementSetType

namespace RequirementKind

theorem hasNames : HasNames [setReference] name predicate where
  distinct := by decide
  keeps _ := rfl
  apart s listed := by simp at listed
  all k := by cases k <;> simp

theorem ofName_eq_byName (s : String) : ofName s = byName [setReference] name predicate s := by
  rw [ofName]
  split_ifs with isReference
  · exact isReference ▸ (hasNames.byName_of_known List.mem_cons_self).symm
  · refine (HasNames.byName_of_unknown ?_).symm
    simp [name, Ne.symm isReference]

instance : WrittenAsName RequirementKind where
  name := name
  ofName := ofName
  name_ofName s := ofName_eq_byName s ▸ hasNames.name_byName s
  toNode_eq _ := rfl
  ofNode?_eq _ := rfl

end RequirementKind

/-! ## Arguments -/

namespace Argument

/-- The fields of an argument. The columns beside the value are left out when they are absent. -/
def cells (a : Argument) : List (String × Option Node) :=
  [("Value", some (toNode a.value)), ("Extra", a.extra.map toNode),
    ("SecondExtra", a.secondExtra.map toNode), ("Type", a.kind.map toNode)]

/-- The fields that a document may leave out, and what they are then. -/
def defaults : List (String × Node) :=
  [("Extra", toNode (none : Option String)), ("SecondExtra", toNode (none : Option String)),
    ("Type", toNode (none : Option String))]

theorem writtenAs : WrittenAs cells where
  toNode_eq a := by rcases a with ⟨value, _ | extra, _ | second, _ | kind⟩ <;> rfl
  distinct a := by simp [cells]
  json a := by
    simp only [cells, List.forall_mem_cons]
    exact ⟨jsonCell_written _, jsonCell_left_out _, jsonCell_left_out _, jsonCell_left_out _,
      List.forall_mem_nil _⟩

instance : WritesJson Argument := writtenAs.writesJson

instance : Faithful Argument where
  rereads a := writtenAs.rereads (fun _ => rfl) <| by
    have distinct := writtenAs.distinct a
    simp only [required_written "Value" distinct (by simp [cells]) (Faithful.rereads a.value),
      withDefault_left_out "Extra" distinct (by simp [cells]) (Faithful.rereads a.extra),
      withDefault_left_out "SecondExtra" distinct (by simp [cells])
        (Faithful.rereads a.secondExtra),
      withDefault_left_out "Type" distinct (by simp [cells]) (Faithful.rereads a.kind)]
    rfl

theorem mayBeLeftOut {d : String × Node} (listed : d ∈ defaults) :
    MayBeLeftOut Argument d.1 d.2 := by
  refine mayBeLeftOut_of_adds (fun _ => rfl) fun fields more adds => ?_
  have distinct : (defaults.map (·.1)).Nodup := by simp [defaults]
  have absent : Rereads (none : Option String) := rfl
  simp only [adds.required_eq listed "Value" (by simp [defaults]),
    adds.withDefault_eq listed "Extra" distinct (by simp [defaults]) absent,
    adds.withDefault_eq listed "SecondExtra" distinct (by simp [defaults]) absent,
    adds.withDefault_eq listed "Type" distinct (by simp [defaults]) absent]

end Argument

/-! ## Requirements -/

namespace Requirement

/-- The fields of a requirement, whose name is left out when it has none. -/
def cells (r : Requirement) : List (String × Option Node) :=
  [("RequirementId", r.id.map toNode), ("RequirementType", some (toNode r.kind)),
    ("Inverse", some (toNode r.inverse)), ("Arguments", some (toNode r.arguments))]

/-- The fields that a document may leave out, and what they are then. -/
def defaults : List (String × Node) :=
  [("RequirementId", toNode (none : Option DataName)), ("Inverse", toNode false),
    ("Arguments", toNode ({} : Arguments))]

theorem writtenAs : WrittenAs cells where
  toNode_eq r := by rcases r with ⟨_ | id, kind, inverse, arguments⟩ <;> rfl
  distinct r := by simp [cells]
  json r := by
    simp only [cells, List.forall_mem_cons]
    exact ⟨jsonCell_left_out _, jsonCell_written _, jsonCell_written _, jsonCell_written _,
      List.forall_mem_nil _⟩

instance : WritesJson Requirement := writtenAs.writesJson

/-- The kind is the one that its name stands for. -/
def Canonical (r : Requirement) : Prop :=
  .ofName r.kind.name = r.kind

theorem readsExactly : ReadsExactly Canonical where
  canonical_of_read {n r} read := by
    simp only [ofNode?, Option.bind_eq_bind, Option.bind_eq_some_iff, Option.pure_def,
      Option.some.injEq] at read
    -- Of the other fields every value can be told.
    obtain ⟨fields, -, id, -, kind, told, inverse, -, arguments, -, rfl⟩ := read
    obtain ⟨node, given⟩ := exists_read_of_required told
    exact readsExactly_name.canonical_of_read given
  rereads {r} canonical := writtenAs.rereads (fun _ => rfl) <| by
    have distinct := writtenAs.distinct r
    have kind : Rereads r.kind := readsExactly_name.rereads canonical
    simp only [
      withDefault_left_out "RequirementId" distinct (by simp [cells]) (Faithful.rereads r.id),
      required_written "RequirementType" distinct (by simp [cells]) kind,
      withDefault_written "Inverse" distinct (by simp [cells]) (Faithful.rereads r.inverse),
      withDefault_written "Arguments" distinct (by simp [cells]) (Faithful.rereads r.arguments)]
    rfl

theorem mayBeLeftOut {d : String × Node} (listed : d ∈ defaults) :
    MayBeLeftOut Requirement d.1 d.2 := by
  refine mayBeLeftOut_of_adds (fun _ => rfl) fun fields more adds => ?_
  have distinct : (defaults.map (·.1)).Nodup := by simp [defaults]
  have unnamed : Rereads (none : Option DataName) := rfl
  have plain : Rereads false := rfl
  have empty : Rereads ({} : Arguments) := rfl
  simp only [adds.withDefault_eq listed "RequirementId" distinct (by simp [defaults]) unnamed,
    adds.required_eq listed "RequirementType" (by simp [defaults]),
    adds.withDefault_eq listed "Inverse" distinct (by simp [defaults]) plain,
    adds.withDefault_eq listed "Arguments" distinct (by simp [defaults]) empty]

end Requirement

namespace RequirementSet

/-- The fields of a set, whose name is left out when it has none. -/
def cells (s : RequirementSet) : List (String × Option Node) :=
  [("RequirementSetId", s.id.map toNode), ("RequirementSetType", some (toNode s.setType)),
    ("Requirements", some (toNode s.requirements))]

/-- The fields that a document may leave out, and what they are then. -/
def defaults : List (String × Node) :=
  [("RequirementSetId", toNode (none : Option DataName)),
    ("RequirementSetType", toNode RequirementSetType.all),
    ("Requirements", toNode ([] : List Requirement))]

theorem writtenAs : WrittenAs cells where
  toNode_eq s := by rcases s with ⟨_ | id, setType, requirements⟩ <;> rfl
  distinct s := by simp [cells]
  json s := by
    simp only [cells, List.forall_mem_cons]
    exact ⟨jsonCell_left_out _, jsonCell_written _, jsonCell_written _, List.forall_mem_nil _⟩

instance : Present RequirementSet := writtenAs.present

instance : WritesJson RequirementSet := writtenAs.writesJson

/-- The type is the one that its name stands for, and so it is with all requirements. -/
def Canonical (s : RequirementSet) : Prop :=
  .ofName s.setType.name = s.setType ∧ ∀ r ∈ s.requirements, r.Canonical

theorem readsExactly : ReadsExactly Canonical where
  canonical_of_read {n s} read := by
    simp only [ofNode?, Option.bind_eq_bind, Option.bind_eq_some_iff, Option.pure_def,
      Option.some.injEq] at read
    obtain ⟨fields, -, id, -, setType, typed, requirements, told, rfl⟩ := read
    constructor
    · rcases default_or_read_of_withDefault typed with rfl | ⟨node, given⟩
      · rfl
      · exact readsExactly_name.canonical_of_read given
    · intro r listed
      rcases default_or_read_of_withDefault told with rfl | ⟨node, given⟩
      · cases listed
      · obtain ⟨item, found⟩ := exists_read_of_mem given listed
        exact Requirement.readsExactly.canonical_of_read found
  rereads {s} canonical := writtenAs.rereads (fun _ => rfl) <| by
    have distinct := writtenAs.distinct s
    have setType : Rereads s.setType := readsExactly_name.rereads canonical.1
    have requirements : Rereads s.requirements := rereads_list fun r listed =>
      Requirement.readsExactly.rereads (canonical.2 r listed)
    simp only [
      withDefault_left_out "RequirementSetId" distinct (by simp [cells]) (Faithful.rereads s.id),
      withDefault_written "RequirementSetType" distinct (by simp [cells]) setType,
      withDefault_written "Requirements" distinct (by simp [cells]) requirements]
    rfl

theorem mayBeLeftOut {d : String × Node} (listed : d ∈ defaults) :
    MayBeLeftOut RequirementSet d.1 d.2 := by
  refine mayBeLeftOut_of_adds (fun _ => rfl) fun fields more adds => ?_
  have distinct : (defaults.map (·.1)).Nodup := by simp [defaults]
  have unnamed : Rereads (none : Option DataName) := rfl
  have all : Rereads RequirementSetType.all := rfl
  have nothing : Rereads ([] : List Requirement) := rfl
  simp only [adds.withDefault_eq listed "RequirementSetId" distinct (by simp [defaults]) unnamed,
    adds.withDefault_eq listed "RequirementSetType" distinct (by simp [defaults]) all,
    adds.withDefault_eq listed "Requirements" distinct (by simp [defaults]) nothing]

end RequirementSet

/-! ## Modifiers -/

namespace Modifier

/-- The fields of a modifier, whose name is left out when it has none. -/
def cells (m : Modifier) : List (String × Option Node) :=
  [("ModifierId", m.id.map toNode), ("Arguments", some (toNode m.arguments)),
    ("CollectionType", some (toNode m.collection)), ("EffectType", some (toNode m.effect)),
    ("SubjectRequirementSet", some (toNode m.subjectRequirements)),
    ("OwnerRequirementSet", some (toNode m.ownerRequirements))]

/-- The fields that a document may leave out, and what they are then. -/
def defaults : List (String × Node) :=
  [("ModifierId", toNode (none : Option DataName)), ("Arguments", toNode ({} : Arguments)),
    ("EffectType", toNode ""), ("SubjectRequirementSet", toNode (none : Option RequirementSet)),
    ("OwnerRequirementSet", toNode (none : Option RequirementSet))]

theorem writtenAs : WrittenAs cells where
  toNode_eq m := by rcases m with ⟨_ | id, arguments, collection, effect, subject, owner⟩ <;> rfl
  distinct m := by simp [cells]
  json m := by
    simp only [cells, List.forall_mem_cons]
    exact ⟨jsonCell_left_out _, jsonCell_written _, jsonCell_written _, jsonCell_written _,
      jsonCell_written _, jsonCell_written _, List.forall_mem_nil _⟩

instance : WritesJson Modifier := writtenAs.writesJson

/-- The collection is the one that its name stands for, and the sets are as canonical. -/
def Canonical (m : Modifier) : Prop :=
  .ofName m.collection.name = m.collection ∧
    (∀ s, m.subjectRequirements = some s → s.Canonical) ∧
    ∀ s, m.ownerRequirements = some s → s.Canonical

theorem readsExactly : ReadsExactly Canonical where
  canonical_of_read {n m} read := by
    simp only [ofNode?, Option.bind_eq_bind, Option.bind_eq_some_iff, Option.pure_def,
      Option.some.injEq] at read
    obtain ⟨fields, -, id, -, arguments, -, collection, told, effect, -, subject, onSubjects,
      owner, onOwner, rfl⟩ := read
    -- A set that was left out is absent, and one that is there was read from the same node.
    have set_canonical {name : String} {o : Option RequirementSet}
        (told : fields.withDefault name none = some o) : ∀ s, o = some s → s.Canonical := by
      rintro s rfl
      rcases default_or_read_of_withDefault told with absent | ⟨node, given⟩
      · cases absent
      · exact RequirementSet.readsExactly.canonical_of_read (read_of_read_some given)
    obtain ⟨node, given⟩ := exists_read_of_required told
    exact ⟨readsExactly_name.canonical_of_read given, set_canonical onSubjects,
      set_canonical onOwner⟩
  rereads {m} canonical := writtenAs.rereads (fun _ => rfl) <| by
    obtain ⟨named, onSubjects, onOwner⟩ := canonical
    have distinct := writtenAs.distinct m
    have collection : Rereads m.collection := readsExactly_name.rereads named
    have subject : Rereads m.subjectRequirements := rereads_option fun s given =>
      RequirementSet.readsExactly.rereads (onSubjects s given)
    have owner : Rereads m.ownerRequirements := rereads_option fun s given =>
      RequirementSet.readsExactly.rereads (onOwner s given)
    simp only [
      withDefault_left_out "ModifierId" distinct (by simp [cells]) (Faithful.rereads m.id),
      withDefault_written "Arguments" distinct (by simp [cells]) (Faithful.rereads m.arguments),
      required_written "CollectionType" distinct (by simp [cells]) collection,
      withDefault_written "EffectType" distinct (by simp [cells]) (Faithful.rereads m.effect),
      withDefault_written "SubjectRequirementSet" distinct (by simp [cells]) subject,
      withDefault_written "OwnerRequirementSet" distinct (by simp [cells]) owner]
    rfl

theorem mayBeLeftOut {d : String × Node} (listed : d ∈ defaults) :
    MayBeLeftOut Modifier d.1 d.2 := by
  refine mayBeLeftOut_of_adds (fun _ => rfl) fun fields more adds => ?_
  have distinct : (defaults.map (·.1)).Nodup := by simp [defaults]
  have unnamed : Rereads (none : Option DataName) := rfl
  have empty : Rereads ({} : Arguments) := rfl
  have effectless : Rereads "" := rfl
  have noSet : Rereads (none : Option RequirementSet) := rfl
  simp only [adds.withDefault_eq listed "ModifierId" distinct (by simp [defaults]) unnamed,
    adds.withDefault_eq listed "Arguments" distinct (by simp [defaults]) empty,
    adds.required_eq listed "CollectionType" (by simp [defaults]),
    adds.withDefault_eq listed "EffectType" distinct (by simp [defaults]) effectless,
    adds.withDefault_eq listed "SubjectRequirementSet" distinct (by simp [defaults]) noSet,
    adds.withDefault_eq listed "OwnerRequirementSet" distinct (by simp [defaults]) noSet]

end Modifier

end YieldRules
