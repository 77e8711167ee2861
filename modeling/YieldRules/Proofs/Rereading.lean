import YieldRules.Id
import YieldRules.Proofs.Entries
import Mathlib.Data.Option.Basic

/-!
# Reading what was written

A value is read again if it is what reading finds in what is written of it. Of most
types every value is. Scalars are written in one way, and lists, maps and sets are
read again when their members are.
-/

namespace YieldRules

/-- A value is read again from what is written of it. -/
def Rereads {α : Type} [Serial α] (x : α) : Prop :=
  ofNode? (toNode x) = some x

/-- Every value is read again. -/
class Faithful (α : Type) [Serial α] : Prop where
  rereads : ∀ x : α, Rereads x

/-- What can be read are the canonical values, and they are read again. -/
structure ReadsExactly {α : Type} [Serial α] (canonical : α → Prop) : Prop where
  canonical_of_read : ∀ {n : Node} {x : α}, ofNode? n = some x → canonical x
  rereads : ∀ {x : α}, canonical x → Rereads x

/-- No value is written as if it were absent. -/
class Present (α : Type) [Serial α] : Prop where
  present : ∀ x : α, (toNode x).isAbsent = false

/-- What a format has that knows names as keys and quoted texts only. No key stands twice. -/
inductive Node.IsJson : Node → Prop where
  | null : IsJson .null
  | bool (b : Bool) : IsJson (.bool b)
  | int (i : Int) : IsJson (.int i)
  | text (s : String) : IsJson (.text s)
  | list {items : List Node} (members : ∀ n ∈ items, IsJson n) : IsJson (.list items)
  | table {entries : List (Key × Node)} (members : ∀ e ∈ entries, IsJson e.2)
    (named : ∀ e ∈ entries, ∃ name, e.1 = .member name)
    (distinct : (entries.map (·.1)).Nodup) : IsJson (.table entries)

/-- Every value is written in such a format. -/
class WritesJson (α : Type) [Serial α] : Prop where
  isJson : ∀ x : α, (toNode x).IsJson

section

variable {α : Type} [Serial α]

/-! ## Scalars -/

theorem rereads_string (s : String) : Rereads s := rfl

theorem rereads_bool (b : Bool) : Rereads b := rfl

theorem natBelow?_int {bound n : Nat} (below : n < bound) :
    (Node.int n).natBelow? bound = some n := by
  have whole : (n : Int).toNat? = some n := rfl
  simp only [Node.natBelow?, whole, Option.bind_eq_bind, Option.bind_some, if_pos below]

theorem lt_of_natBelow? {bound n : Nat} {node : Node} (read : node.natBelow? bound = some n) :
    n < bound := by
  have checked : ∃ value : Nat, (if value < bound then some value else none) = some n := by
    cases node with
    | int i =>
      obtain ⟨value, _, passes⟩ := Option.bind_eq_some_iff.mp read
      exact ⟨value, passes⟩
    | bare s =>
      obtain ⟨value, _, passes⟩ := Option.bind_eq_some_iff.mp read
      exact ⟨value, passes⟩
    | _ => cases read
  obtain ⟨value, passes⟩ := checked
  obtain ⟨below, same⟩ := Option.ite_none_right_eq_some.mp passes
  exact Option.some.inj same ▸ below

theorem rereads_uInt8 (n : UInt8) : Rereads n := by
  have read : (toNode n).natBelow? UInt8.size = some n.toNat := natBelow?_int n.toNat_lt
  have back : ofNode? (toNode n) = ((toNode n).natBelow? UInt8.size).map UInt8.ofNat := rfl
  rw [Rereads, back, read, Option.map_some, UInt8.ofNat_toNat]

theorem rereads_uInt32 (n : UInt32) : Rereads n := by
  have read : (toNode n).natBelow? UInt32.size = some n.toNat := natBelow?_int n.toNat_lt
  have back : ofNode? (toNode n) = ((toNode n).natBelow? UInt32.size).map UInt32.ofNat := rfl
  rw [Rereads, back, read, Option.map_some, UInt32.ofNat_toNat]

theorem rereads_int32 (n : Int32) : Rereads n := by
  have within : Int32.minValue.toInt ≤ n.toInt ∧ n.toInt ≤ Int32.maxValue.toInt :=
    ⟨n.minValue_le_toInt, n.toInt_le⟩
  have back : ofNode? (toNode n) = if Int32.minValue.toInt ≤ n.toInt ∧
      n.toInt ≤ Int32.maxValue.toInt then some (Int32.ofInt n.toInt) else none := rfl
  rw [Rereads, back, if_pos within, Int32.ofInt_toInt]

/-- A value around another that is written as the inner one. -/
theorem Rereads.wrapped {β : Type} [Serial β] {wrap : β → α} {raw : β} {x : α}
    (rereads : Rereads raw) (read : ofNode? (toNode x) = (ofNode? (toNode raw)).map wrap)
    (same : wrap raw = x) : Rereads x := by
  have back : ofNode? (toNode raw) = some raw := rereads
  rw [Rereads, read, back, Option.map_some, same]

theorem toNode_inj [Faithful α] {x y : α} : toNode x = toNode y ↔ x = y := by
  constructor
  · intro same
    have back : ofNode? (toNode x) = some x := Faithful.rereads x
    have back' : ofNode? (toNode y) = some y := Faithful.rereads y
    rw [same, back'] at back
    exact (Option.some.inj back).symm
  · rintro rfl
    rfl

instance : Faithful String := ⟨rereads_string⟩

instance : Faithful Bool := ⟨rereads_bool⟩

instance : Faithful UInt8 := ⟨rereads_uInt8⟩

instance : Faithful UInt32 := ⟨rereads_uInt32⟩

instance : Faithful Int32 := ⟨rereads_int32⟩

instance : Present String := ⟨fun _ => rfl⟩

/-! ## Options -/

theorem ofNode?_option (n : Node) : (ofNode? n : Option (Option α)) =
    if n.isAbsent then some none else (ofNode? n).map some := rfl

theorem toNode_some (x : α) : toNode (some x) = toNode x := rfl

theorem rereads_option [Present α] {o : Option α} (all : ∀ x, o = some x → Rereads x) :
    Rereads o := by
  cases o with
  | none => rfl
  | some x =>
    have present : (toNode x).isAbsent = false := Present.present x
    have back : ofNode? (toNode x) = some x := all x rfl
    rw [Rereads, toNode_some, ofNode?_option, present, back]
    rfl

instance [Faithful α] [Present α] : Faithful (Option α) :=
  ⟨fun _ => rereads_option fun x _ => Faithful.rereads x⟩

/-- What is there was read from the same place. -/
theorem read_of_read_some {n : Node} {x : α} (read : ofNode? n = some (some x)) :
    ofNode? n = some x := by
  rw [ofNode?_option] at read
  split at read
  · cases read
  · obtain ⟨y, found, same⟩ := Option.map_eq_some_iff.mp read
    exact Option.some.inj same ▸ found

/-! ## Lists, maps and sets -/

theorem mapM_map_eq_some {β γ : Type} {f : β → Option γ} {g : γ → β} {xs : List γ}
    (back : ∀ x ∈ xs, f (g x) = some x) : (xs.map g).mapM f = some xs := by
  induction xs with
  | nil => rfl
  | cons x xs ih =>
    obtain ⟨here, later⟩ := List.forall_mem_cons.mp back
    rw [List.map_cons, List.mapM_cons, here, ih later]
    rfl

theorem exists_of_mapM_eq_some {β γ : Type} {f : β → Option γ} {ys : List β} {xs : List γ} {x : γ}
    (read : ys.mapM f = some xs) (listed : x ∈ xs) : ∃ y ∈ ys, f y = some x := by
  induction ys generalizing xs with
  | nil =>
    cases read
    cases listed
  | cons y ys ih =>
    rw [List.mapM_cons] at read
    obtain ⟨first, here, read⟩ := Option.bind_eq_some_iff.mp read
    obtain ⟨rest, later, same⟩ := Option.bind_eq_some_iff.mp read
    obtain rfl : first :: rest = xs := Option.some.inj same
    rcases List.mem_cons.mp listed with rfl | listed
    · exact ⟨y, List.mem_cons_self, here⟩
    · obtain ⟨z, given, found⟩ := ih later listed
      exact ⟨z, List.mem_cons_of_mem y given, found⟩

theorem rereads_list {xs : List α} (all : ∀ x ∈ xs, Rereads x) : Rereads xs :=
  mapM_map_eq_some all

instance [Faithful α] : Faithful (List α) :=
  ⟨fun _ => rereads_list fun x _ => Faithful.rereads x⟩

/-- Every member of a list was read from an item. -/
theorem exists_read_of_mem {n : Node} {xs : List α} {x : α} (read : ofNode? n = some xs)
    (listed : x ∈ xs) : ∃ item : Node, ofNode? item = some x := by
  obtain ⟨items, _, members⟩ := Option.bind_eq_some_iff.mp read
  obtain ⟨item, _, found⟩ := exists_of_mapM_eq_some members listed
  exact ⟨item, found⟩

/-- One entry of a table under a name. -/
def readEntry (e : Key × Node) : Option (String × α) := do
  return (← SerialKey.ofKey? e.1, ← ofNode? e.2)

theorem ofNode?_map (n : Node) : (ofNode? n : Option (SortedMap String α)) =
    n.entries?.bind fun written => (written.mapM readEntry).map SortedMap.ofList := by
  simp only [Option.map_eq_bind]
  rfl

instance [Faithful α] : Faithful (SortedMap String α) where
  rereads m := by
    have back : (m.entries.map fun e => (SerialKey.toKey e.1, toNode e.2)).mapM readEntry =
        some m.entries := by
      refine mapM_map_eq_some fun e _ => ?_
      have rereads : ofNode? (toNode e.2) = some e.2 := Faithful.rereads e.2
      rw [readEntry, rereads]
      rfl
    have table : (toNode m).entries? =
        some (m.entries.map fun e => (SerialKey.toKey e.1, toNode e.2)) := rfl
    rw [Rereads, ofNode?_map, table, Option.bind_some, back, Option.map_some,
      SortedMap.ofList_entries]

section

variable {κ : Type} [Ord κ] [Std.TransOrd κ] [Std.LawfulEqOrd κ] [Serial κ]

theorem ofNode?_set (n : Node) : (ofNode? n : Option (SortedSet κ)) =
    n.items?.bind fun items => (items.mapM ofNode?).map SortedSet.ofList := by
  simp only [Option.map_eq_bind]
  rfl

instance [Faithful κ] : Faithful (SortedSet κ) where
  rereads s := by
    have back : (s.keys.map toNode).mapM ofNode? = some s.keys :=
      mapM_map_eq_some fun k _ => Faithful.rereads k
    have list : (toNode s).items? = some (s.keys.map toNode) := rfl
    rw [Rereads, ofNode?_set, list, Option.bind_some, back, Option.map_some,
      SortedSet.ofList_keys]

end

/-! ## Written as JSON -/

instance : WritesJson String := ⟨fun s => .text s⟩

instance : WritesJson Bool := ⟨fun b => .bool b⟩

instance : WritesJson UInt8 := ⟨fun n => .int n.toNat⟩

instance : WritesJson UInt32 := ⟨fun n => .int n.toNat⟩

instance : WritesJson Int32 := ⟨fun n => .int n.toInt⟩

instance [WritesJson α] : WritesJson (Option α) where
  isJson o := by
    cases o with
    | none => exact .null
    | some x => exact WritesJson.isJson x

theorem isJson_list [WritesJson α] (xs : List α) : (Node.list (xs.map toNode)).IsJson := by
  apply Node.IsJson.list
  intro n listed
  obtain ⟨x, _, rfl⟩ := List.mem_map.mp listed
  exact WritesJson.isJson x

instance [WritesJson α] : WritesJson (List α) := ⟨isJson_list⟩

instance [WritesJson α] : WritesJson (SortedMap String α) where
  isJson m := by
    apply Node.IsJson.table
    · intro e listed
      obtain ⟨entry, _, rfl⟩ := List.mem_map.mp listed
      exact WritesJson.isJson entry.2
    · intro e listed
      obtain ⟨entry, _, rfl⟩ := List.mem_map.mp listed
      exact ⟨entry.1, rfl⟩
    · have injective : Function.Injective Key.member := fun _ _ => Key.member.inj
      have distinct := m.keys_nodup.map injective
      rw [SortedMap.keys, List.map_map] at distinct
      rw [List.map_map]
      exact distinct

instance {κ : Type} [Ord κ] [Std.TransOrd κ] [Std.LawfulEqOrd κ] [Serial κ] [WritesJson κ] :
    WritesJson (SortedSet κ) :=
  ⟨fun s => isJson_list s.keys⟩

end

end YieldRules
