/-!
# Maps in ascending key order

A map is the list of its entries, and the list is strictly ascending in the
keys. Equal maps therefore have equal entries: no trace is left of the order
in which keys were inserted. A set is a map that holds nothing at its keys.
-/

namespace YieldRules

/-- The entry of a key is in front of all larger ones, and there is at most one. -/
def Ascending {κ α : Type} [Ord κ] (entries : List (κ × α)) : Prop :=
  entries.Pairwise fun a b => compare a.1 b.1 = .lt

structure SortedMap (κ α : Type) [Ord κ] where
  entries : List (κ × α)
  ascending : Ascending entries

abbrev SortedSet (κ : Type) [Ord κ] := SortedMap κ Unit

namespace SortedMap

variable {κ α : Type}

/-- Put an entry into its place, in the stead of one with the same key. -/
def insertEntry [Ord κ] (k : κ) (x : α) : List (κ × α) → List (κ × α)
  | [] => [(k, x)]
  | e :: rest =>
    match compare k e.1 with
    | .lt => (k, x) :: e :: rest
    | .eq => (k, x) :: rest
    | .gt => e :: insertEntry k x rest

theorem mem_insertEntry [Ord κ] {k : κ} {x : α} {a : κ × α} {entries : List (κ × α)}
    (h : a ∈ insertEntry k x entries) : a = (k, x) ∨ a ∈ entries := by
  induction entries with
  | nil => exact .inl (by simpa [insertEntry] using h)
  | cons e rest ih =>
    simp only [insertEntry] at h
    split at h
    · simpa using h
    · rcases List.mem_cons.1 h with rfl | hr
      · exact .inl rfl
      · exact .inr (List.mem_cons_of_mem _ hr)
    · rcases List.mem_cons.1 h with rfl | hr
      · exact .inr List.mem_cons_self
      · exact (ih hr).imp id (List.mem_cons_of_mem _)

theorem ascending_insertEntry [Ord κ] [Std.TransOrd κ] [Std.LawfulEqOrd κ] (k : κ) (x : α)
    {entries : List (κ × α)} (h : Ascending entries) : Ascending (insertEntry k x entries) := by
  induction entries with
  | nil => simp [insertEntry, Ascending]
  | cons e rest ih =>
    obtain ⟨first, later⟩ := List.pairwise_cons.1 h
    simp only [insertEntry]
    split
    · rename_i hlt
      refine List.pairwise_cons.2 ⟨fun a ha => ?_, h⟩
      rcases List.mem_cons.1 ha with rfl | ha
      · exact hlt
      · exact Std.TransCmp.lt_trans hlt (first a ha)
    · rename_i heq
      have hk : k = e.1 := Std.LawfulEqOrd.eq_of_compare heq
      exact List.pairwise_cons.2 ⟨fun a ha => hk ▸ first a ha, later⟩
    · rename_i hgt
      refine List.pairwise_cons.2 ⟨fun a ha => ?_, ih later⟩
      rcases mem_insertEntry ha with rfl | ha
      · exact Std.OrientedCmp.lt_of_gt hgt
      · exact first a ha

def empty [Ord κ] : SortedMap κ α := ⟨[], List.Pairwise.nil⟩

instance [Ord κ] : EmptyCollection (SortedMap κ α) := ⟨empty⟩

instance [Ord κ] : Inhabited (SortedMap κ α) := ⟨empty⟩

/-- Put a value at a key, in the stead of the one that is there. -/
def insert [Ord κ] [Std.TransOrd κ] [Std.LawfulEqOrd κ] (m : SortedMap κ α) (k : κ) (x : α) :
    SortedMap κ α :=
  ⟨insertEntry k x m.entries, ascending_insertEntry k x m.ascending⟩

/-- The value at a key. -/
def get? [Ord κ] (m : SortedMap κ α) (k : κ) : Option α :=
  (m.entries.find? fun e => compare k e.1 == .eq).map (·.2)

def contains [Ord κ] (m : SortedMap κ α) (k : κ) : Bool :=
  (m.get? k).isSome

def keys [Ord κ] (m : SortedMap κ α) : List κ :=
  m.entries.map (·.1)

def isEmpty [Ord κ] (m : SortedMap κ α) : Bool :=
  m.entries.isEmpty

/-- The map of some entries; of those with one key the last counts. -/
def ofList [Ord κ] [Std.TransOrd κ] [Std.LawfulEqOrd κ] (entries : List (κ × α)) : SortedMap κ α :=
  entries.foldl (fun m e => m.insert e.1 e.2) empty

/-- The keys of the entries that pass a test, in ascending order. -/
def keysWhere [Ord κ] (m : SortedMap κ α) (p : κ → α → Bool) : List κ :=
  (m.entries.filter fun e => p e.1 e.2).map (·.1)

end SortedMap

namespace SortedSet

variable {κ : Type} [Ord κ] [Std.TransOrd κ] [Std.LawfulEqOrd κ]

def add (s : SortedSet κ) (k : κ) : SortedSet κ :=
  s.insert k ()

def ofList (keys : List κ) : SortedSet κ :=
  keys.foldl add SortedMap.empty

end SortedSet

end YieldRules
