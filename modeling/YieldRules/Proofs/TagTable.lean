import YieldRules.Proofs.Rereading
import YieldRules.Tags
import Mathlib.Data.List.Sort

/-!
# Tables of tags

A table of tags is settled by the rows that were put into it, each a type and one of its
tags. Their order and their repeats leave no trace, nor does it matter which of them were
there at first and which came later. What is written of the table lists the rows in the
one way in which types and tags ascend.
-/

namespace YieldRules

/-! ## Rows in ascending order -/

/-- Each type of some rows has one line with all its tags. Types and tags ascend. -/
structure Lists (lines : List (DataName × List String)) (rows : List (DataName × String)) :
    Prop where
  types : (lines.map (·.1)).Pairwise (· < ·)
  names : ∀ line ∈ lines, line.2.Pairwise (· < ·)
  filled : ∀ line ∈ lines, line.2 ≠ []
  mem_iff : ∀ type name, (∃ names, (type, names) ∈ lines ∧ name ∈ names) ↔ (type, name) ∈ rows

/-- Lines as a document. -/
def Node.ofLines (lines : List (DataName × List String)) : Node :=
  .table (lines.map fun line => (.member line.1, .list (line.2.map .text)))

theorem compare_eq_lt_iff {a b : String} : compare a b = .lt ↔ a < b :=
  compareOfLessAndEq_eq_lt

section

variable {lines lines' : List (DataName × List String)} {rows : List (DataName × String)}
variable {line : DataName × List String} {name : String}

theorem Lists.ascending (lists : Lists lines rows) : Ascending lines :=
  (List.pairwise_map.mp lists.types).imp compare_eq_lt_iff.mpr

/-- The tags of a line are those of the rows of its type. -/
theorem Lists.mem_names_iff (lists : Lists lines rows) (listed : line ∈ lines) :
    name ∈ line.2 ↔ (line.1, name) ∈ rows := by
  rw [← lists.mem_iff]
  constructor
  · intro tagged
    exact ⟨line.2, listed, tagged⟩
  · rintro ⟨names, listed', tagged⟩
    have distinct : (lines.map (·.1)).Nodup := lists.types.nodup
    have same : (line.1, names) = line := List.inj_on_of_nodup_map distinct listed' listed rfl
    exact same ▸ tagged

theorem Lists.mem_of_mem (lists : Lists lines rows) (lists' : Lists lines' rows)
    (listed : line ∈ lines) : line ∈ lines' := by
  obtain ⟨name, tagged⟩ := List.exists_mem_of_ne_nil _ (lists.filled line listed)
  have row := (lists.mem_names_iff listed).mp tagged
  obtain ⟨names, listed', _⟩ := (lists'.mem_iff line.1 name).mpr row
  have same : line.2 = names := by
    apply (lists.names line listed).eq_of_mem_iff (lists'.names _ listed')
    intro name
    rw [lists.mem_names_iff listed, lists'.mem_names_iff listed']
  rw [← same] at listed'
  exact listed'

/-- Rows are listed in one way. -/
theorem Lists.unique (lists : Lists lines rows) (lists' : Lists lines' rows) : lines = lines' := by
  apply SortedMap.eq_of_ascending lists.ascending lists'.ascending
  intro line
  exact ⟨lists.mem_of_mem lists', lists'.mem_of_mem lists⟩

end

/-! ## Tables that hold rows -/

namespace Tags

variable {tags tags' : Tags} {rows rows' : List (DataName × String)}
variable {type type' : DataName} {name name' : String} {names : SortedSet String}

/-- Add the tags of some rows, one row after the other. -/
def tagAll (tags : Tags) (rows : List (DataName × String)) : Tags :=
  rows.foldl (fun tags row => tags.tag row.1 row.2) tags

/-- A type has the tags that rows give it and no other. A type without tags is not there. -/
structure Holds (tags : Tags) (rows : List (DataName × String)) : Prop where
  has_iff : ∀ type name, tags.has type name = true ↔ (type, name) ∈ rows
  inhabited : ∀ type names, tags.tagsOf? type = some names → ∃ name, names.contains name = true

theorem has_iff_tagsOf? :
    tags.has type name = true ↔ ∃ names, tags.tagsOf? type = some names ∧
      names.contains name = true :=
  Option.any_eq_true _ _

theorem has_eq_contains (tags : Tags) (type : DataName) (name : String) :
    tags.has type name = ((tags.tagsOf? type).getD {}).contains name := by
  rw [has]
  cases tags.tagsOf? type with
  | none => rfl
  | some names => rfl

theorem tagsOf?_tag_self (tags : Tags) (type : DataName) (name : String) :
    (tags.tag type name).tagsOf? type = some (((tags.tagsOf? type).getD {}).add name) :=
  tags.get?_insert_self type _

theorem tagsOf?_tag_of_ne (differs : type' ≠ type) :
    (tags.tag type name).tagsOf? type' = tags.tagsOf? type' :=
  tags.get?_insert_of_ne _ differs

/-- A tag is added to one type, next to all that is there. -/
theorem has_tag_iff : (tags.tag type name).has type' name' = true ↔
    tags.has type' name' = true ∨ (type', name') = (type, name) := by
  by_cases same : type' = type
  · subst same
    rw [has_eq_contains, has_eq_contains, tagsOf?_tag_self, Option.getD_some,
      SortedSet.contains_add_iff, Prod.mk.injEq, and_iff_right rfl]
  · have other : (type', name') ≠ (type, name) := fun pair => same (congrArg Prod.fst pair)
    rw [has, tagsOf?_tag_of_ne same, or_iff_left other, has]

theorem holds_empty : Holds {} [] where
  has_iff type name := by
    constructor
    · intro tagged
      cases tagged
    · intro listed
      cases listed
  inhabited type names there := by cases there

theorem Holds.tag (holds : tags.Holds rows) (type : DataName) (name : String) :
    (tags.tag type name).Holds (rows ++ [(type, name)]) where
  has_iff type' name' := by
    rw [has_tag_iff, holds.has_iff, List.mem_append, List.mem_singleton]
  inhabited type' names there := by
    by_cases same : type' = type
    · subst same
      rw [tagsOf?_tag_self] at there
      obtain rfl := Option.some.inj there
      exact ⟨name, (SortedSet.contains_add_iff _ _ _).mpr (.inr rfl)⟩
    · rw [tagsOf?_tag_of_ne same] at there
      exact holds.inhabited type' names there

theorem Holds.tagAll (holds : tags.Holds rows) (later : List (DataName × String)) :
    (tags.tagAll later).Holds (rows ++ later) := by
  -- On the rows to come; those behind already stand in the table.
  induction later generalizing tags rows with
  | nil =>
    rw [List.append_nil]
    exact holds
  | cons row later ih =>
    have next := ih (holds.tag row.1 row.2)
    rw [List.append_assoc] at next
    exact next

theorem holds_ofRows (rows later : List (DataName × String)) :
    ((ofRows rows).tagAll later).Holds (rows ++ later) :=
  (holds_empty.tagAll rows).tagAll later

namespace Holds

variable (holds : tags.Holds rows)
include holds

theorem contains_iff (there : tags.tagsOf? type = some names) :
    names.contains name = true ↔ (type, name) ∈ rows := by
  rw [← holds.has_iff, has, there, Option.any_some]

theorem tagsOf?_eq_none_iff : tags.tagsOf? type = none ↔ ∀ name, (type, name) ∉ rows := by
  constructor
  · intro absent name listed
    have tagged := (holds.has_iff type name).mpr listed
    rw [has, absent] at tagged
    cases tagged
  · intro unlisted
    cases there : tags.tagsOf? type with
    | none => rfl
    | some names =>
      obtain ⟨name, member⟩ := holds.inhabited type names there
      exact False.elim (unlisted name ((holds.contains_iff there).mp member))

theorem tagsOf?_eq_some_iff : tags.tagsOf? type = some names ↔
    (∃ name, (type, name) ∈ rows) ∧
      ∀ name, names.contains name = true ↔ (type, name) ∈ rows := by
  constructor
  · intro there
    obtain ⟨name, member⟩ := holds.inhabited type names there
    exact ⟨⟨name, (holds.contains_iff there).mp member⟩, fun _ => holds.contains_iff there⟩
  · rintro ⟨⟨name, listed⟩, members⟩
    cases there : tags.tagsOf? type with
    | none => exact False.elim (holds.tagsOf?_eq_none_iff.mp there name listed)
    | some found =>
      have same : found = names := SortedSet.ext_contains fun name =>
        (holds.contains_iff there).trans (members name).symm
      rw [same]

/-- A table holds its rows and is the only one that does. -/
theorem eq_iff (holds' : tags'.Holds rows') : tags = tags' ↔ ∀ row, row ∈ rows ↔ row ∈ rows' := by
  constructor
  · rintro rfl row
    rw [← holds.has_iff row.1 row.2, holds'.has_iff]
  · intro same
    apply SortedMap.ext_get?
    intro type
    apply Option.ext
    intro names
    have left : tags.get? type = some names ↔ _ := holds.tagsOf?_eq_some_iff
    have right : tags'.get? type = some names ↔ _ := holds'.tagsOf?_eq_some_iff
    rw [left, right]
    simp only [same]

end Holds

/-! ## Tables as documents -/

/-- The types of a table with their tags, as they are written. -/
def lines (tags : Tags) : List (DataName × List String) :=
  tags.entries.map fun e => (e.1, e.2.keys)

theorem toNode_eq_ofLines (tags : Tags) : toNode tags = .ofLines tags.lines := by
  rw [Node.ofLines, lines, List.map_map]
  rfl

theorem Holds.lists_lines (holds : tags.Holds rows) : Lists tags.lines rows where
  types := by
    rw [lines, List.map_map]
    exact List.pairwise_map.mpr (tags.ascending.imp compare_eq_lt_iff.mp)
  names line listed := by
    obtain ⟨e, _, rfl⟩ := List.mem_map.mp listed
    exact List.pairwise_map.mpr (e.2.ascending.imp compare_eq_lt_iff.mp)
  filled line listed empty := by
    obtain ⟨e, stored, rfl⟩ := List.mem_map.mp listed
    obtain ⟨name, member⟩ := holds.inhabited e.1 e.2 (SortedMap.get?_eq_some_iff.mpr stored)
    have key : name ∈ e.2.keys := SortedMap.contains_iff_mem_keys.mp member
    have none : e.2.keys = [] := empty
    rw [none] at key
    cases key
  mem_iff type name := by
    rw [← holds.has_iff, has_iff_tagsOf?]
    constructor
    · rintro ⟨_, listed, key⟩
      obtain ⟨e, stored, same⟩ := List.mem_map.mp listed
      cases same
      exact ⟨e.2, SortedMap.get?_eq_some_iff.mpr stored,
        SortedMap.contains_iff_mem_keys.mpr key⟩
    · rintro ⟨names, there, member⟩
      refine ⟨names.keys, ?_, SortedMap.contains_iff_mem_keys.mp member⟩
      exact List.mem_map.mpr ⟨(type, names), SortedMap.get?_eq_some_iff.mp there, rfl⟩

theorem Holds.toNode_eq_iff (holds : tags.Holds rows) {node : Node} :
    toNode tags = node ↔ ∃ lines, Lists lines rows ∧ node = .ofLines lines := by
  rw [toNode_eq_ofLines]
  constructor
  · rintro rfl
    exact ⟨tags.lines, holds.lists_lines, rfl⟩
  · rintro ⟨lines, lists, rfl⟩
    rw [lists.unique holds.lists_lines]

/-- A table that is built from rows, to which others are added one by one, has exactly the tags of
all these rows: a type that no row names is not there, and any other has the set of the tags of its
rows. Two such tables are equal, and are written alike, exactly if the same rows were put into them,
whatever the order, the repeats and the share of rows that came later. What is written is the one
list of the rows in which types and tags ascend. -/
theorem table_is_set_of_rows (rows later : List (DataName × String)) :
    (∀ type name, ((ofRows rows).tagAll later).has type name = true ↔
      (type, name) ∈ rows ++ later) ∧
    (∀ type, ((ofRows rows).tagAll later).tagsOf? type = none ↔
      ∀ name, (type, name) ∉ rows ++ later) ∧
    (∀ type names, ((ofRows rows).tagAll later).tagsOf? type = some names ↔
      (∃ name, (type, name) ∈ rows ++ later) ∧
        ∀ name, names.contains name = true ↔ (type, name) ∈ rows ++ later) ∧
    (∀ rows' later', (ofRows rows).tagAll later = (ofRows rows').tagAll later' ↔
      ∀ row, row ∈ rows ++ later ↔ row ∈ rows' ++ later') ∧
    (∀ rows' later',
      toNode ((ofRows rows).tagAll later) = toNode ((ofRows rows').tagAll later') ↔
        ∀ row, row ∈ rows ++ later ↔ row ∈ rows' ++ later') ∧
    (∀ node, toNode ((ofRows rows).tagAll later) = node ↔
      ∃ lines, Lists lines (rows ++ later) ∧ node = .ofLines lines) := by
  have holds := holds_ofRows rows later
  refine ⟨holds.has_iff, fun _ => holds.tagsOf?_eq_none_iff, fun _ _ => holds.tagsOf?_eq_some_iff,
    ?_, ?_, fun _ => holds.toNode_eq_iff⟩
  · intro rows' later'
    exact holds.eq_iff (holds_ofRows rows' later')
  · intro rows' later'
    rw [toNode_inj]
    exact holds.eq_iff (holds_ofRows rows' later')

/-- The hill keeps its first tag when it gets another, and the repeated row changes nothing. -/
example : toNode (((ofRows [("TERRAIN_HILL", "ROUGH"), ("TERRAIN_COAST", "WET")]).tag
      "TERRAIN_HILL" "HIGH").tag "TERRAIN_HILL" "ROUGH") =
    .table [(.member "TERRAIN_COAST", .list [.text "WET"]),
      (.member "TERRAIN_HILL", .list [.text "HIGH", .text "ROUGH"])] := by
  rfl

end Tags

end YieldRules
