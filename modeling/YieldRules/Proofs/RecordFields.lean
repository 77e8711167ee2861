import YieldRules.Proofs.Rereading

/-!
# The fields of written records

A record is written as a table of its fields. A field is found by its name among
those that are written, so a record is read again when its fields are. A field that
has a default may be left out of a table: it means the same as its default there.
-/

namespace YieldRules

/-- The fields of a record that have a node, under their names. -/
def Fields.written (cells : List (String × Option Node)) : Fields :=
  ⟨cells.filterMap fun c => c.2.map fun n => (.member c.1, n)⟩

/-- A record as a table of its fields; a field without a node is left out. -/
def Node.record (cells : List (String × Option Node)) : Node :=
  .table (Fields.written cells).entries

theorem fields?_record (cells : List (String × Option Node)) (names : List String) :
    (Node.record cells).fields? names = some (.written cells) := by
  have named : ((Fields.written cells).entries.all fun e => e.1.text?.isSome) = true := by
    simp only [Fields.written, List.all_filterMap, List.all_eq_true]
    intro c _
    cases c.2 <;> rfl
  simp only [Node.record, Node.fields?, Node.entries?, Option.bind_eq_bind, Option.bind_some,
    named, if_true]

section

variable {α : Type} [Serial α] {cells : List (String × Option Node)} {name : String}
variable {value : Option Node} {x default : α}

theorem filter_named_of_lacking {entries : List (Key × Node)}
    (lacking : ∀ e ∈ entries, e.1.text? ≠ some name) :
    (entries.filter fun e => e.1.text? == some name) = [] := by
  apply List.filter_eq_nil_iff.mpr
  intro e listed same
  exact lacking e listed (eq_of_beq same)

theorem written_lacks (lacking : name ∉ cells.map (·.1)) :
    ∀ e ∈ (Fields.written cells).entries, e.1.text? ≠ some name := by
  intro e listed same
  obtain ⟨c, inCells, made⟩ := List.mem_filterMap.mp listed
  obtain ⟨n, _, rfl⟩ := Option.map_eq_some_iff.mp made
  have found : c.1 = name := Option.some.inj same
  exact lacking (List.mem_map.mpr ⟨c, inCells, found⟩)

theorem written_cons (c : String × Option Node) (cells : List (String × Option Node)) :
    (Fields.written (c :: cells)).entries =
      (c.2.map fun n => (Key.member c.1, n)).toList ++ (Fields.written cells).entries := by
  obtain ⟨_, value⟩ := c
  cases value <;> rfl

/-- Of the written fields exactly those with a node stand under their names. -/
theorem lookup_written (distinct : (cells.map (·.1)).Nodup) (listed : (name, value) ∈ cells) :
    (Fields.written cells).lookup name = some value := by
  have only : ((Fields.written cells).entries.filter fun e => e.1.text? == some name) =
      (value.map fun n => (Key.member name, n)).toList := by
    induction cells with
    | nil => cases listed
    | cons c cells ih =>
      obtain ⟨fresh, distinct⟩ := List.nodup_cons.mp distinct
      rw [written_cons, List.filter_append]
      rcases List.mem_cons.mp listed with rfl | listed
      · rw [filter_named_of_lacking (written_lacks fresh), List.append_nil]
        cases value with
        | none => rfl
        | some n => exact List.filter_cons_of_pos (beq_self_eq_true _)
      · have other : c.1 ≠ name := fun same =>
          fresh (List.mem_map.mpr ⟨(name, value), listed, same.symm⟩)
        have elsewhere : ∀ e ∈ (c.2.map fun n => (Key.member c.1, n)).toList,
            e.1.text? ≠ some name := by
          intro e inCell same
          obtain ⟨n, _, rfl⟩ := Option.map_eq_some_iff.mp (Option.mem_toList.mp inCell)
          exact other (Option.some.inj same)
        rw [filter_named_of_lacking elsewhere, List.nil_append, ih distinct listed]
  rw [Fields.lookup, only]
  cases value <;> rfl

theorem required_written (name : String) (distinct : (cells.map (·.1)).Nodup)
    (listed : (name, some (toNode x)) ∈ cells) (rereads : Rereads x) :
    (Fields.written cells).required name = some x := by
  have back : ofNode? (toNode x) = some x := rereads
  rw [Fields.required, lookup_written distinct listed]
  exact back

theorem withDefault_written (name : String) (distinct : (cells.map (·.1)).Nodup)
    (listed : (name, some (toNode x)) ∈ cells) (rereads : Rereads x) :
    (Fields.written cells).withDefault name default = some x := by
  have back : ofNode? (toNode x) = some x := rereads
  rw [Fields.withDefault, lookup_written distinct listed]
  exact back

/-- A tag stands among the fields that it tells of. -/
theorem taggedFields?_record {kind : String} (names : String → List String)
    (distinct : (cells.map (·.1)).Nodup) (listed : (name, some (toNode kind)) ∈ cells) :
    (Node.record cells).taggedFields? name names = some (kind, .written cells) := by
  have byName : (Node.record cells).taggedFields? name names =
      ((Node.record cells).fields? []).bind fun fields =>
        (fields.required name).bind fun tag => some (tag, fields) := rfl
  rw [byName, fields?_record, Option.bind_some,
    required_written name distinct listed (rereads_string kind), Option.bind_some]

/-- A field that is left out when it is absent, and is absent when it is left out. -/
theorem withDefault_left_out (name : String) {o : Option α} (distinct : (cells.map (·.1)).Nodup)
    (listed : (name, o.map toNode) ∈ cells) (rereads : Rereads o) :
    (Fields.written cells).withDefault name none = some o := by
  have back : ofNode? (toNode o) = some o := rereads
  rw [Fields.withDefault, lookup_written distinct listed]
  cases o with
  | none => rfl
  | some x => exact back

theorem keys_written_sublist (cells : List (String × Option Node)) :
    ((Fields.written cells).entries.map (·.1)).Sublist (cells.map fun c => Key.member c.1) := by
  induction cells with
  | nil => exact List.Sublist.slnil
  | cons c cells ih =>
    rw [written_cons, List.map_append, List.map_cons]
    cases c.2 with
    | none => exact ih.cons _
    | some n => exact ih.cons_cons _

/-- A field is left out or written as JSON. -/
def JsonCell (value : Option Node) : Prop :=
  ∀ n, value = some n → n.IsJson

theorem jsonCell_written [WritesJson α] (x : α) : JsonCell (some (toNode x)) := by
  rintro n ⟨⟩
  exact WritesJson.isJson x

theorem jsonCell_left_out [WritesJson α] (o : Option α) : JsonCell (o.map toNode) := by
  intro n filled
  obtain ⟨x, _, rfl⟩ := Option.map_eq_some_iff.mp filled
  exact WritesJson.isJson x

theorem isJson_record (distinct : (cells.map (·.1)).Nodup)
    (members : ∀ c ∈ cells, JsonCell c.2) : (Node.record cells).IsJson := by
  apply Node.IsJson.table
  · intro e listed
    obtain ⟨c, inCells, made⟩ := List.mem_filterMap.mp listed
    obtain ⟨n, filled, rfl⟩ := Option.map_eq_some_iff.mp made
    exact members c inCells n filled
  · intro e listed
    obtain ⟨c, _, made⟩ := List.mem_filterMap.mp listed
    obtain ⟨n, _, rfl⟩ := Option.map_eq_some_iff.mp made
    exact ⟨c.1, rfl⟩
  · have injective : Function.Injective Key.member := fun _ _ => Key.member.inj
    have keys : (cells.map fun c => Key.member c.1) = (cells.map (·.1)).map Key.member := by
      rw [List.map_map]
      rfl
    exact (keys ▸ distinct.map injective).sublist (keys_written_sublist cells)

theorem exists_read_of_required {fields : Fields} (read : fields.required name = some x) :
    ∃ n : Node, ofNode? n = some x := by
  obtain ⟨node?, _, found⟩ := Option.bind_eq_some_iff.mp read
  obtain ⟨node, _, given⟩ := Option.bind_eq_some_iff.mp found
  exact ⟨node, given⟩

theorem default_or_read_of_withDefault {fields : Fields}
    (read : fields.withDefault name default = some x) :
    x = default ∨ ∃ n : Node, ofNode? n = some x := by
  obtain ⟨node?, _, found⟩ := Option.bind_eq_some_iff.mp read
  cases node? with
  | none => exact Or.inl (Option.some.inj found).symm
  | some node => exact Or.inr ⟨node, found⟩

end

/-! ## Types of records -/

section

variable {α : Type} [Serial α]

/-- A record is written as a table of its fields, each under a name of its own. -/
structure WrittenAs (cells : α → List (String × Option Node)) : Prop where
  toNode_eq : ∀ x, toNode x = .record (cells x)
  distinct : ∀ x, ((cells x).map (·.1)).Nodup
  json : ∀ x, ∀ c ∈ cells x, JsonCell c.2

namespace WrittenAs

variable {cells : α → List (String × Option Node)} (written : WrittenAs cells)
include written

theorem present : Present α where
  present x := by
    rw [written.toNode_eq]
    rfl

theorem writesJson : WritesJson α where
  isJson x := by
    rw [written.toNode_eq]
    exact isJson_record (written.distinct x) (written.json x)

/-- A record that reads its fields by name is read again when its fields are. -/
theorem rereads {names : List String} {read : Fields → Option α} {x : α}
    (reads : ∀ n, ofNode? n = (n.fields? names).bind read)
    (back : read (.written (cells x)) = some x) : Rereads x := by
  rw [Rereads, written.toNode_eq, reads, fields?_record, Option.bind_some, back]

end WrittenAs

/-! ## Fields that are left out -/

/-- To leave a field out of a table is to write its default there. -/
def MayBeLeftOut (α : Type) [Serial α] (name : String) (default : Node) : Prop :=
  ∀ before after : List (Key × Node), (∀ e ∈ before ++ after, e.1.text? ≠ some name) →
    (ofNode? (.table (before ++ (.member name, default) :: after)) : Option α) =
      ofNode? (.table (before ++ after))

/-- The same fields and one more, whose name is new. -/
structure Fields.Adds (fields more : Fields) (name : String) (node : Node) : Prop where
  left_out : fields.lookup name = some none
  added : more.lookup name = some (some node)
  other : ∀ {f : String}, f ≠ name → more.lookup f = fields.lookup f

theorem adds_of_lacking {before after : List (Key × Node)} {name : String} (node : Node)
    (lacking : ∀ e ∈ before ++ after, e.1.text? ≠ some name) :
    Fields.Adds ⟨before ++ after⟩ ⟨before ++ (.member name, node) :: after⟩ name node := by
  constructor
  · rw [Fields.lookup, filter_named_of_lacking lacking]
  · have inFront := filter_named_of_lacking fun e listed =>
      lacking e (List.mem_append_left after listed)
    have behind := filter_named_of_lacking fun e listed =>
      lacking e (List.mem_append_right before listed)
    have alone : (((Key.member name, node) :: after).filter fun e => e.1.text? == some name) =
        (Key.member name, node) :: after.filter fun e => e.1.text? == some name :=
      List.filter_cons_of_pos (beq_self_eq_true (some name))
    rw [Fields.lookup, List.filter_append, inFront, alone, behind]
    rfl
  · intro f other
    have skipped : (((Key.member name, node) :: after).filter fun e => e.1.text? == some f) =
        after.filter fun e => e.1.text? == some f :=
      List.filter_cons_of_neg fun same => other (Option.some.inj (eq_of_beq same)).symm
    rw [Fields.lookup, Fields.lookup, List.filter_append, List.filter_append, skipped]

/-- A record that reads its fields by name may leave out a field that changes no reading. -/
theorem mayBeLeftOut_of_adds {names : List String} {read : Fields → Option α} {name : String}
    {default : Node}
    (reads : ∀ entries, ofNode? (.table entries) = ((Node.table entries).fields? names).bind read)
    (same : ∀ fields more, Fields.Adds fields more name default → read more = read fields) :
    MayBeLeftOut α name default := by
  intro before after lacking
  -- A table with a key that is no scalar is no record, with the field or without it.
  have keys : ((before ++ (Key.member name, default) :: after).all fun e => e.1.text?.isSome) =
      (before ++ after).all fun e => e.1.text?.isSome := by
    rw [List.all_append, List.all_append, List.all_cons]
    rfl
  simp only [reads, Node.fields?, Node.entries?, Option.bind_eq_bind, Option.bind_some, keys]
  split
  · exact same _ _ (adds_of_lacking default lacking)
  · rfl

section

variable {fields more : Fields} {defaults : List (String × Node)} {d : String × Node}
variable (adds : fields.Adds more d.1 d.2) (listed : d ∈ defaults)
include adds listed

theorem Fields.Adds.required_eq (name : String) (needed : name ∉ defaults.map (·.1)) :
    (more.required name : Option α) = fields.required name := by
  have other : name ≠ d.1 := by
    rintro rfl
    exact needed (List.mem_map_of_mem listed)
  rw [Fields.required, Fields.required, adds.other other]

theorem Fields.Adds.withDefault_eq (name : String) {default : α}
    (distinct : (defaults.map (·.1)).Nodup) (mine : (name, toNode default) ∈ defaults)
    (rereads : Rereads default) :
    more.withDefault name default = fields.withDefault name default := by
  -- The added field is read as the default of its own name, and no other field is touched.
  by_cases same : name = d.1
  · obtain rfl : (name, toNode default) = d := List.inj_on_of_nodup_map distinct mine listed same
    have back : ofNode? (toNode default) = some default := rereads
    rw [Fields.withDefault, Fields.withDefault, adds.added, adds.left_out]
    exact back
  · rw [Fields.withDefault, Fields.withDefault, adds.other same]

end

end

end YieldRules
