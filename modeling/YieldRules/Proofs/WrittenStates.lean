import YieldRules.Options
import YieldRules.Subject
import YieldRules.World.Basic
import YieldRules.Proofs.RecordFields

/-!
# Written game states

Subjects, plots with their features, units, constructibles with their types and the
options of an evaluation are read again from what is written of them.
-/

namespace YieldRules

/-! ## Identifiers and places -/

section

variable {e : Entity}

instance : Faithful (Id e) := ⟨fun i => (Faithful.rereads i.raw).wrapped rfl rfl⟩

instance : Faithful PlayerId := ⟨fun p => (Faithful.rereads p.index).wrapped rfl rfl⟩

instance : Faithful PlotIndex := ⟨fun p => (Faithful.rereads p.index).wrapped rfl rfl⟩

instance : Faithful River := ⟨fun r => by cases r <;> rfl⟩

instance : Present (Id e) := ⟨fun _ => rfl⟩

instance : WritesJson (Id e) := ⟨fun i => WritesJson.isJson i.raw⟩

instance : WritesJson PlayerId := ⟨fun p => WritesJson.isJson p.index⟩

instance : WritesJson PlotIndex := ⟨fun p => WritesJson.isJson p.index⟩

instance : WritesJson River := ⟨fun r => .text r.name⟩

end

namespace Location

def cells (l : Location) : List (String × Option Node) :=
  [("x", some (toNode l.x)), ("y", some (toNode l.y))]

theorem writtenAs : WrittenAs cells where
  toNode_eq _ := rfl
  distinct l := by simp [cells]
  json l := by
    simp only [cells, List.forall_mem_cons]
    exact ⟨jsonCell_written _, jsonCell_written _, List.forall_mem_nil _⟩

instance : WritesJson Location := writtenAs.writesJson

instance : Faithful Location where
  rereads l := writtenAs.rereads (fun _ => rfl) <| by
    have distinct := writtenAs.distinct l
    simp only [required_written "x" distinct (by simp [cells]) (Faithful.rereads l.x),
      required_written "y" distinct (by simp [cells]) (Faithful.rereads l.y)]
    rfl

end Location

/-! ## Subjects -/

namespace Subject

/-- The fields of a subject behind the tag that tells its kind. -/
def cells : Subject → List (String × Option Node)
  | city c o p => [("type", some (toNode "City")), ("city", some (toNode c)),
      ("owner", some (toNode o)), ("plot", some (toNode p))]
  | unit u o p => [("type", some (toNode "Unit")), ("unit", some (toNode u)),
      ("owner", some (toNode o)), ("plot", some (toNode p))]
  | player p => [("type", some (toNode "Player")), ("player", some (toNode p))]
  | plot c p => [("type", some (toNode "Plot")), ("city", some (toNode c)),
      ("plot", some (toNode p))]

theorem writtenAs : WrittenAs cells where
  toNode_eq s := by cases s <;> rfl
  distinct s := by cases s <;> simp [cells]
  json s := by
    cases s <;> simp [cells, jsonCell_written]

instance : WritesJson Subject := writtenAs.writesJson

/-- Every subject has a tag of its own, and the tag tells which fields follow. -/
instance : Faithful Subject where
  rereads s := by
    have distinct := writtenAs.distinct s
    rw [Rereads, writtenAs.toNode_eq]
    cases s with
    | city c o p =>
      simp only [ofNode?, taggedFields?_record fieldsBehind distinct List.mem_cons_self,
        Option.bind_eq_bind, Option.bind_some,
        required_written "city" distinct (by simp [cells]) (Faithful.rereads c),
        required_written "owner" distinct (by simp [cells]) (Faithful.rereads o),
        required_written "plot" distinct (by simp [cells]) (Faithful.rereads p)]
      rfl
    | unit u o p =>
      simp only [ofNode?, taggedFields?_record fieldsBehind distinct List.mem_cons_self,
        Option.bind_eq_bind, Option.bind_some,
        required_written "unit" distinct (by simp [cells]) (Faithful.rereads u),
        required_written "owner" distinct (by simp [cells]) (Faithful.rereads o),
        required_written "plot" distinct (by simp [cells]) (Faithful.rereads p)]
      rfl
    | player p =>
      simp only [ofNode?, taggedFields?_record fieldsBehind distinct List.mem_cons_self,
        Option.bind_eq_bind, Option.bind_some,
        required_written "player" distinct (by simp [cells]) (Faithful.rereads p)]
      rfl
    | plot c p =>
      simp only [ofNode?, taggedFields?_record fieldsBehind distinct List.mem_cons_self,
        Option.bind_eq_bind, Option.bind_some,
        required_written "city" distinct (by simp [cells]) (Faithful.rereads c),
        required_written "plot" distinct (by simp [cells]) (Faithful.rereads p)]
      rfl

end Subject

/-! ## Constructible types and features -/

namespace ConstructibleType

def cells (t : ConstructibleType) : List (String × Option Node) :=
  [("ConstructibleType", some (toNode t.name)), ("Age", some (toNode t.age)),
    ("Adjacencies", some (toNode t.adjacencies))]

/-- The fields that a document may leave out, and what they are then. -/
def defaults : List (String × Node) :=
  [("Age", toNode (none : Option DataName)), ("Adjacencies", toNode ([] : List DataName))]

theorem writtenAs : WrittenAs cells where
  toNode_eq _ := rfl
  distinct t := by simp [cells]
  json t := by simp [cells, jsonCell_written]

instance : WritesJson ConstructibleType := writtenAs.writesJson

instance : Faithful ConstructibleType where
  rereads t := writtenAs.rereads (fun _ => rfl) <| by
    have distinct := writtenAs.distinct t
    simp only [
      required_written "ConstructibleType" distinct (by simp [cells]) (Faithful.rereads t.name),
      withDefault_written "Age" distinct (by simp [cells]) (Faithful.rereads t.age),
      withDefault_written "Adjacencies" distinct (by simp [cells])
        (Faithful.rereads t.adjacencies)]
    rfl

theorem mayBeLeftOut {d : String × Node} (listed : d ∈ defaults) :
    MayBeLeftOut ConstructibleType d.1 d.2 := by
  refine mayBeLeftOut_of_adds (fun _ => rfl) fun fields more adds => ?_
  have distinct : (defaults.map (·.1)).Nodup := by simp [defaults]
  have ageless : Rereads (none : Option DataName) := rfl
  have nothing : Rereads ([] : List DataName) := rfl
  simp only [adds.required_eq listed "ConstructibleType" (by simp [defaults]),
    adds.withDefault_eq listed "Age" distinct (by simp [defaults]) ageless,
    adds.withDefault_eq listed "Adjacencies" distinct (by simp [defaults]) nothing]

end ConstructibleType

namespace Feature

def cells (f : Feature) : List (String × Option Node) :=
  [("feature_type", some (toNode f.name)), ("feature_class", some (toNode f.featureClass))]

/-- The field that a document may leave out, and what it is then. -/
def defaults : List (String × Node) :=
  [("feature_class", toNode (none : Option DataName))]

theorem writtenAs : WrittenAs cells where
  toNode_eq _ := rfl
  distinct f := by simp [cells]
  json f := by simp [cells, jsonCell_written]

instance : Present Feature := writtenAs.present

instance : WritesJson Feature := writtenAs.writesJson

instance : Faithful Feature where
  rereads f := writtenAs.rereads (fun _ => rfl) <| by
    have distinct := writtenAs.distinct f
    simp only [
      required_written "feature_type" distinct (by simp [cells]) (Faithful.rereads f.name),
      withDefault_written "feature_class" distinct (by simp [cells])
        (Faithful.rereads f.featureClass)]
    rfl

theorem mayBeLeftOut {d : String × Node} (listed : d ∈ defaults) :
    MayBeLeftOut Feature d.1 d.2 := by
  refine mayBeLeftOut_of_adds (fun _ => rfl) fun fields more adds => ?_
  have distinct : (defaults.map (·.1)).Nodup := by simp [defaults]
  have classless : Rereads (none : Option DataName) := rfl
  simp only [adds.required_eq listed "feature_type" (by simp [defaults]),
    adds.withDefault_eq listed "feature_class" distinct (by simp [defaults]) classless]

end Feature

/-! ## Plots, units and constructibles -/

namespace PlotState

def cells (p : PlotState) : List (String × Option Node) :=
  [("location", some (toNode p.location)), ("terrain", some (toNode p.terrain)),
    ("biome", some (toNode p.biome)), ("feature", some (toNode p.feature)),
    ("resource", some (toNode p.resource)), ("route", some (toNode p.route)),
    ("lake", some (toNode p.lake)), ("river", some (toNode p.river)),
    ("natural_wonder", some (toNode p.naturalWonder))]

/-- What need not be told of a plot, which is everything. -/
def defaults : List (String × Node) :=
  [("location", toNode Location.origin), ("terrain", toNode (none : Option DataName)),
    ("biome", toNode (none : Option DataName)), ("feature", toNode (none : Option Feature)),
    ("resource", toNode (none : Option DataName)), ("route", toNode (none : Option DataName)),
    ("lake", toNode false), ("river", toNode River.none), ("natural_wonder", toNode false)]

theorem writtenAs : WrittenAs cells where
  toNode_eq _ := rfl
  distinct p := by simp [cells]
  json p := by simp [cells, jsonCell_written]

instance : WritesJson PlotState := writtenAs.writesJson

instance : Faithful PlotState where
  rereads p := writtenAs.rereads (fun _ => rfl) <| by
    have distinct := writtenAs.distinct p
    simp only [
      withDefault_written "location" distinct (by simp [cells]) (Faithful.rereads p.location),
      withDefault_written "terrain" distinct (by simp [cells]) (Faithful.rereads p.terrain),
      withDefault_written "biome" distinct (by simp [cells]) (Faithful.rereads p.biome),
      withDefault_written "feature" distinct (by simp [cells]) (Faithful.rereads p.feature),
      withDefault_written "resource" distinct (by simp [cells]) (Faithful.rereads p.resource),
      withDefault_written "route" distinct (by simp [cells]) (Faithful.rereads p.route),
      withDefault_written "lake" distinct (by simp [cells]) (Faithful.rereads p.lake),
      withDefault_written "river" distinct (by simp [cells]) (Faithful.rereads p.river),
      withDefault_written "natural_wonder" distinct (by simp [cells])
        (Faithful.rereads p.naturalWonder)]
    rfl

theorem mayBeLeftOut {d : String × Node} (listed : d ∈ defaults) :
    MayBeLeftOut PlotState d.1 d.2 := by
  refine mayBeLeftOut_of_adds (fun _ => rfl) fun fields more adds => ?_
  have distinct : (defaults.map (·.1)).Nodup := by simp [defaults]
  have unknown : Rereads (none : Option DataName) := rfl
  have bare : Rereads (none : Option Feature) := rfl
  have origin : Rereads Location.origin := rfl
  have no : Rereads false := rfl
  have dry : Rereads River.none := rfl
  simp only [adds.withDefault_eq listed "location" distinct (by simp [defaults]) origin,
    adds.withDefault_eq listed "terrain" distinct (by simp [defaults]) unknown,
    adds.withDefault_eq listed "biome" distinct (by simp [defaults]) unknown,
    adds.withDefault_eq listed "feature" distinct (by simp [defaults]) bare,
    adds.withDefault_eq listed "resource" distinct (by simp [defaults]) unknown,
    adds.withDefault_eq listed "route" distinct (by simp [defaults]) unknown,
    adds.withDefault_eq listed "lake" distinct (by simp [defaults]) no,
    adds.withDefault_eq listed "river" distinct (by simp [defaults]) dry,
    adds.withDefault_eq listed "natural_wonder" distinct (by simp [defaults]) no]

end PlotState

namespace UnitState

def cells (u : UnitState) : List (String × Option Node) :=
  [("owner", some (toNode u.owner)), ("unit_type", some (toNode u.unitType)),
    ("location", some (toNode u.location)), ("combat", some (toNode u.combat))]

/-- What need not be told of a unit, which is everything. -/
def defaults : List (String × Node) :=
  [("owner", toNode PlayerId.first), ("unit_type", toNode ""),
    ("location", toNode Location.origin), ("combat", toNode false)]

theorem writtenAs : WrittenAs cells where
  toNode_eq _ := rfl
  distinct u := by simp [cells]
  json u := by simp [cells, jsonCell_written]

instance : WritesJson UnitState := writtenAs.writesJson

instance : Faithful UnitState where
  rereads u := writtenAs.rereads (fun _ => rfl) <| by
    have distinct := writtenAs.distinct u
    simp only [
      withDefault_written "owner" distinct (by simp [cells]) (Faithful.rereads u.owner),
      withDefault_written "unit_type" distinct (by simp [cells]) (Faithful.rereads u.unitType),
      withDefault_written "location" distinct (by simp [cells]) (Faithful.rereads u.location),
      withDefault_written "combat" distinct (by simp [cells]) (Faithful.rereads u.combat)]
    rfl

theorem mayBeLeftOut {d : String × Node} (listed : d ∈ defaults) :
    MayBeLeftOut UnitState d.1 d.2 := by
  refine mayBeLeftOut_of_adds (fun _ => rfl) fun fields more adds => ?_
  have distinct : (defaults.map (·.1)).Nodup := by simp [defaults]
  have first : Rereads PlayerId.first := rfl
  have origin : Rereads Location.origin := rfl
  simp only [adds.withDefault_eq listed "owner" distinct (by simp [defaults]) first,
    adds.withDefault_eq listed "unit_type" distinct (by simp [defaults]) (rereads_string ""),
    adds.withDefault_eq listed "location" distinct (by simp [defaults]) origin,
    adds.withDefault_eq listed "combat" distinct (by simp [defaults]) (rereads_bool false)]

end UnitState

namespace ConstructibleState

def cells (c : ConstructibleState) : List (String × Option Node) :=
  [("constructible_type", some (toNode c.typeName)), ("location", some (toNode c.location)),
    ("city", some (toNode c.city)), ("hidden", some (toNode c.hidden))]

/-- What need not be told of a constructible, which is everything. -/
def defaults : List (String × Node) :=
  [("constructible_type", toNode ""), ("location", toNode Location.origin),
    ("city", toNode (none : Option CityId)), ("hidden", toNode false)]

theorem writtenAs : WrittenAs cells where
  toNode_eq _ := rfl
  distinct c := by simp [cells]
  json c := by simp [cells, jsonCell_written]

instance : WritesJson ConstructibleState := writtenAs.writesJson

instance : Faithful ConstructibleState where
  rereads c := writtenAs.rereads (fun _ => rfl) <| by
    have distinct := writtenAs.distinct c
    simp only [
      withDefault_written "constructible_type" distinct (by simp [cells])
        (Faithful.rereads c.typeName),
      withDefault_written "location" distinct (by simp [cells]) (Faithful.rereads c.location),
      withDefault_written "city" distinct (by simp [cells]) (Faithful.rereads c.city),
      withDefault_written "hidden" distinct (by simp [cells]) (Faithful.rereads c.hidden)]
    rfl

theorem mayBeLeftOut {d : String × Node} (listed : d ∈ defaults) :
    MayBeLeftOut ConstructibleState d.1 d.2 := by
  refine mayBeLeftOut_of_adds (fun _ => rfl) fun fields more adds => ?_
  have distinct : (defaults.map (·.1)).Nodup := by simp [defaults]
  have origin : Rereads Location.origin := rfl
  have cityless : Rereads (none : Option CityId) := rfl
  simp only [
    adds.withDefault_eq listed "constructible_type" distinct (by simp [defaults])
      (rereads_string ""),
    adds.withDefault_eq listed "location" distinct (by simp [defaults]) origin,
    adds.withDefault_eq listed "city" distinct (by simp [defaults]) cityless,
    adds.withDefault_eq listed "hidden" distinct (by simp [defaults]) (rereads_bool false)]

end ConstructibleState

/-! ## Options -/

namespace Options

def cells (o : Options) : List (String × Option Node) :=
  [("max_requirement_depth", some (.int o.maxRequirementDepth))]

/-- The field that a document may leave out, and what it is then. -/
def defaults : List (String × Node) :=
  [("max_requirement_depth", .int default.maxRequirementDepth)]

theorem writtenAs : WrittenAs cells where
  toNode_eq _ := rfl
  distinct o := by simp [cells]
  json o := by
    simp only [cells, List.forall_mem_cons]
    refine ⟨?_, List.forall_mem_nil _⟩
    rintro n ⟨⟩
    exact .int _

instance : WritesJson Options := writtenAs.writesJson

/-- The depth is a number of 64 bits. -/
def Canonical (o : Options) : Prop :=
  o.maxRequirementDepth < Nat.pow 2 64

theorem readsExactly : ReadsExactly Canonical where
  canonical_of_read {n o} read := by
    obtain ⟨fields, _, found⟩ := Option.bind_eq_some_iff.mp read
    obtain ⟨told, _, given⟩ := Option.bind_eq_some_iff.mp found
    cases told with
    | none =>
      obtain rfl : default = o := Option.some.inj given
      show default.maxRequirementDepth < Nat.pow 2 64
      decide
    | some node =>
      obtain ⟨depth, bounded, same⟩ := Option.bind_eq_some_iff.mp given
      obtain rfl : Options.mk depth = o := Option.some.inj same
      exact lt_of_natBelow? bounded
  rereads {o} below := writtenAs.rereads (fun _ => rfl) <| by
    have distinct := writtenAs.distinct o
    simp only [lookup_written distinct List.mem_cons_self, Option.bind_eq_bind, Option.bind_some,
      natBelow?_int below]
    rfl

theorem mayBeLeftOut {d : String × Node} (listed : d ∈ defaults) :
    MayBeLeftOut Options d.1 d.2 := by
  obtain rfl := List.mem_singleton.mp listed
  refine mayBeLeftOut_of_adds (fun _ => rfl) fun fields more adds => ?_
  simp only [adds.added, adds.left_out]
  rfl

end Options

end YieldRules
