import YieldRules.SortedMap
import Mathlib.Data.List.Nodup

/-!
# Entries of maps

Where no key has two entries, looking a key up finds the entry that is listed, and
counting keys is counting entries. Maps in which all keys are looked up alike are equal.
-/

namespace YieldRules

/-- Where no two items have one key, a search by key finds whatever has it. -/
theorem find?_eq_some_iff_of_nodup {α κ : Type} [BEq κ] [LawfulBEq κ] {key : α → κ} {xs : List α}
    {k : κ} {x : α} (distinct : (xs.map key).Nodup) :
    xs.find? (fun x => key x == k) = some x ↔ x ∈ xs ∧ key x = k := by
  constructor
  · intro found
    have passes := List.find?_some found
    exact ⟨List.mem_of_find?_eq_some found, beq_iff_eq.mp passes⟩
  · rintro ⟨listed, rfl⟩
    cases found : xs.find? fun y => key y == key x with
    | none =>
      have missed := List.find?_eq_none.mp found x listed
      exact False.elim (missed (beq_self_eq_true _))
    | some y =>
      have passes := List.find?_some found
      rw [List.inj_on_of_nodup_map distinct (List.mem_of_find?_eq_some found) listed
        (beq_iff_eq.mp passes)]

namespace SortedMap

variable {κ α : Type} [Ord κ] {m : SortedMap κ α} {k : κ} {x : α} {p : κ → α → Bool}

theorem ne_of_compare_lt [Std.LawfulEqOrd κ] {a b : κ} (h : compare a b = .lt) : a ≠ b := by
  rintro rfl
  rw [Std.compare_self] at h
  cases h

theorem keys_nodup [Std.LawfulEqOrd κ] (m : SortedMap κ α) : m.keys.Nodup :=
  List.pairwise_map.mpr (m.ascending.imp fun h => ne_of_compare_lt h)

theorem keysWhere_nodup [Std.LawfulEqOrd κ] (m : SortedMap κ α) (p : κ → α → Bool) :
    (m.keysWhere p).Nodup :=
  m.keys_nodup.sublist (List.filter_sublist.map _)

theorem keysWhere_ascending (m : SortedMap κ α) (p : κ → α → Bool) :
    (m.keysWhere p).Pairwise fun a b => compare a b = .lt :=
  List.pairwise_map.mpr (m.ascending.sublist List.filter_sublist)

theorem entry_of_find? [Std.LawfulEqOrd κ] {e : κ × α}
    (found : (m.entries.find? fun e => compare k e.1 == .eq) = some e) :
    e ∈ m.entries ∧ e.1 = k := by
  have same : compare k e.1 = .eq := by simpa using List.find?_some found
  exact ⟨List.mem_of_find?_eq_some found, (Std.LawfulEqOrd.eq_of_compare same).symm⟩

theorem get?_eq_some_iff [Std.LawfulEqOrd κ] : m.get? k = some x ↔ (k, x) ∈ m.entries := by
  constructor
  · intro h
    obtain ⟨e, found, rfl⟩ := Option.map_eq_some_iff.mp h
    obtain ⟨listed, rfl⟩ := entry_of_find? found
    exact listed
  · intro h
    cases found : m.entries.find? fun e => compare k e.1 == .eq with
    | none =>
      have missed := List.find?_eq_none.mp found (k, x) h
      simp [Std.compare_self] at missed
    | some e =>
      obtain ⟨listed, same⟩ := entry_of_find? found
      have only : e = (k, x) := List.inj_on_of_nodup_map m.keys_nodup listed h same
      rw [get?, found, only, Option.map_some]

theorem mem_keysWhere [Std.LawfulEqOrd κ] :
    k ∈ m.keysWhere p ↔ ∃ x, m.get? k = some x ∧ p k x = true := by
  simp only [keysWhere, List.mem_map, List.mem_filter, get?_eq_some_iff]
  constructor
  · rintro ⟨e, ⟨listed, passes⟩, rfl⟩
    exact ⟨e.2, listed, passes⟩
  · rintro ⟨x, listed, passes⟩
    exact ⟨(k, x), ⟨listed, passes⟩, rfl⟩

theorem contains_iff_mem_keys [Std.LawfulEqOrd κ] : m.contains k = true ↔ k ∈ m.keys := by
  rw [contains, Option.isSome_iff_exists, keys, List.mem_map]
  constructor
  · rintro ⟨x, found⟩
    exact ⟨(k, x), get?_eq_some_iff.mp found, rfl⟩
  · rintro ⟨e, listed, rfl⟩
    exact ⟨e.2, get?_eq_some_iff.mpr listed⟩

/-- A test on keys that looks them up again counts the entries themselves. -/
theorem countP_keysWhere [Std.LawfulEqOrd κ] (q : Option α → Bool) :
    (m.keysWhere p).countP (fun k => q (m.get? k)) =
      m.entries.countP fun e => p e.1 e.2 && q (some e.2) := by
  rw [keysWhere, List.countP_map, List.countP_filter]
  refine List.countP_congr fun e listed => ?_
  have found : m.get? e.1 = some e.2 := get?_eq_some_iff.mpr listed
  simp only [Function.comp_apply, found, Bool.and_comm]

theorem any_keysWhere [Std.LawfulEqOrd κ] (q : Option α → Bool) :
    (m.keysWhere p).any (fun k => q (m.get? k)) =
      m.entries.any fun e => p e.1 e.2 && q (some e.2) := by
  rw [Bool.eq_iff_iff, List.any_eq_true, ← List.countP_pos_iff, countP_keysWhere,
    List.countP_pos_iff, List.any_eq_true]

/-! ## Insertion -/

theorem get?_insert_self [Std.TransOrd κ] [Std.LawfulEqOrd κ] (m : SortedMap κ α) (k : κ) (x : α) :
    (m.insert k x).get? k = some x := by
  have found (entries : List (κ × α)) :
      (insertEntry k x entries).find? (fun e => compare k e.1 == .eq) = some (k, x) := by
    induction entries with
    | nil => simp [insertEntry, Std.compare_self]
    | cons e rest ih =>
      simp only [insertEntry]
      split
      · simp [Std.compare_self]
      · simp [Std.compare_self]
      · rename_i beyond
        simpa [beyond] using ih
  rw [get?, insert, found, Option.map_some]

theorem get?_insert_of_ne [Std.TransOrd κ] [Std.LawfulEqOrd κ] (m : SortedMap κ α) {k k' : κ}
    (x : α) (differs : k' ≠ k) : (m.insert k x).get? k' = m.get? k' := by
  have missed : (compare k' k == .eq) = false := by
    simpa using fun same => differs (Std.LawfulEqOrd.eq_of_compare same)
  have found (entries : List (κ × α)) :
      (insertEntry k x entries).find? (fun e => compare k' e.1 == .eq) =
        entries.find? fun e => compare k' e.1 == .eq := by
    induction entries with
    | nil => simp [insertEntry, missed]
    | cons e rest ih =>
      simp only [insertEntry]
      split
      · rw [List.find?_cons_of_neg (by simp [missed])]
      · rename_i same
        have replaced : (compare k' e.1 == .eq) = false :=
          Std.LawfulEqOrd.eq_of_compare same ▸ missed
        rw [List.find?_cons_of_neg (by simp [missed]), List.find?_cons_of_neg (by simp [replaced])]
      · rw [List.find?_cons, List.find?_cons, ih]
  rw [get?, insert, found, get?]

/-! ## Fewer keys and other values -/

variable {β : Type}

theorem keysWhere_sublist {q : κ → α → Bool} (implies : ∀ k x, p k x = true → q k x = true) :
    (m.keysWhere p).Sublist (m.keysWhere q) :=
  (List.monotone_filter_right m.entries fun e => implies e.1 e.2).map _

/-- Other values under the same keys. -/
def mapValues (m : SortedMap κ α) (f : κ → α → β) : SortedMap κ β :=
  ⟨m.entries.map fun e => (e.1, f e.1 e.2), List.pairwise_map.mpr (m.ascending.imp id)⟩

theorem get?_mapValues [Std.LawfulEqOrd κ] (f : κ → α → β) :
    (m.mapValues f).get? k = (m.get? k).map (f k) := by
  have moved : (m.mapValues f).entries.find? (fun e => compare k e.1 == .eq) =
      (m.entries.find? fun e => compare k e.1 == .eq).map fun e => (e.1, f e.1 e.2) :=
    List.find?_map ..
  rw [get?, moved, get?]
  cases found : m.entries.find? fun e => compare k e.1 == .eq with
  | none => rfl
  | some e =>
    obtain ⟨_, rfl⟩ := entry_of_find? found
    rfl

theorem keysWhere_mapValues (f : κ → α → β) (p : κ → β → Bool) :
    (m.mapValues f).keysWhere p = m.keysWhere fun k x => p k (f k x) := by
  rw [keysWhere, keysWhere, mapValues, List.filter_map, List.map_map]
  rfl

/-! ## Passes over the entries -/

section

variable {σ : Type} {step : σ → κ × α → σ} (view : σ → β)

omit [Ord κ] in
theorem foldl_of_other_keys {entries : List (κ × α)} (unseen : ∀ e ∈ entries, e.1 ≠ k)
    (other : ∀ s e, e.1 ≠ k → view (step s e) = view s) (s : σ) :
    view (entries.foldl step s) = view s := by
  induction entries generalizing s with
  | nil => rfl
  | cons e entries ih =>
    obtain ⟨first, later⟩ := List.forall_mem_cons.mp unseen
    rw [List.foldl_cons, ih later, other s e first]

variable [Std.LawfulEqOrd κ] (other : ∀ s e, e.1 ≠ k → view (step s e) = view s)
include other

theorem foldl_of_unlisted (unlisted : m.get? k = none) (s : σ) :
    view (m.entries.foldl step s) = view s := by
  apply foldl_of_other_keys view _ other
  rintro e there rfl
  rw [get?_eq_some_iff.mpr there] at unlisted
  cases unlisted

/-- Where only the entry of one key changes what is seen, a pass is seen as the turn of that entry,
taken in a state that looks as the first one does. -/
theorem foldl_of_listed (listed : m.get? k = some x) (s : σ) :
    ∃ t, view t = view s ∧ view (m.entries.foldl step s) = view (step t (k, x)) := by
  obtain ⟨before, after, split⟩ := List.append_of_mem (get?_eq_some_iff.mp listed)
  have distinct := m.keys_nodup
  rw [keys, split, List.map_append, List.map_cons, List.nodup_middle, List.nodup_cons,
    ← List.map_append] at distinct
  have elsewhere : ∀ e ∈ before ++ after, e.1 ≠ k := by
    rintro e there rfl
    exact distinct.1 (List.mem_map.mpr ⟨e, there, rfl⟩)
  refine ⟨before.foldl step s, ?_, ?_⟩
  · exact foldl_of_other_keys view (fun e there => elsewhere e (List.mem_append_left _ there)) other
      s
  · rw [split, List.foldl_append, List.foldl_cons]
    exact foldl_of_other_keys view (fun e there => elsewhere e (List.mem_append_right _ there)) other
      _

end

/-! ## Maps from entries -/

theorem ext_entries {m m' : SortedMap κ α} (same : m.entries = m'.entries) : m = m' := by
  obtain ⟨entries, _⟩ := m
  obtain ⟨entries', _⟩ := m'
  obtain rfl : entries = entries' := same
  rfl

section

variable [Std.TransOrd κ]

theorem insertEntry_of_above {entries : List (κ × α)}
    (above : ∀ e ∈ entries, compare e.1 k = .lt) :
    insertEntry k x entries = entries ++ [(k, x)] := by
  induction entries with
  | nil => rfl
  | cons e rest ih =>
    obtain ⟨first, later⟩ := List.forall_mem_cons.mp above
    have beyond : compare k e.1 = .gt := Std.OrientedCmp.gt_of_lt first
    simp only [insertEntry, beyond, ih later, List.cons_append]

variable [Std.LawfulEqOrd κ]

/-- The same entries stand in ascending order in one way. -/
theorem eq_of_ascending {entries entries' : List (κ × α)} (ascending : Ascending entries)
    (ascending' : Ascending entries') (same : ∀ e, e ∈ entries ↔ e ∈ entries') :
    entries = entries' := by
  have differ {a b : κ × α} (before : compare a.1 b.1 = .lt) : a ≠ b :=
    fun equal => ne_of_compare_lt before (congrArg Prod.fst equal)
  have reordered : entries.Perm entries' :=
    (List.perm_ext_iff_of_nodup (ascending.imp differ) (ascending'.imp differ)).mpr same
  refine reordered.eq_of_pairwise ?_ ascending ascending'
  intro a b _ _ before after
  rw [Std.OrientedCmp.gt_of_lt before] at after
  cases after

/-- Maps in which every look-up finds the same are equal. -/
theorem ext_get? {m m' : SortedMap κ α} (same : ∀ k, m.get? k = m'.get? k) : m = m' := by
  apply ext_entries
  apply eq_of_ascending m.ascending m'.ascending
  intro e
  rw [← get?_eq_some_iff, ← get?_eq_some_iff, same]

theorem entries_foldl_insert (later : List (κ × α)) (m : SortedMap κ α)
    (ascending : Ascending (m.entries ++ later)) :
    (later.foldl (fun m e => m.insert e.1 e.2) m).entries = m.entries ++ later := by
  induction later generalizing m with
  | nil => rw [List.foldl_nil, List.append_nil]
  | cons e later ih =>
    have above : ∀ a ∈ m.entries, compare a.1 e.1 = .lt := fun a listed =>
      (List.pairwise_append.mp ascending).2.2 a listed e List.mem_cons_self
    have grown : (m.insert e.1 e.2).entries = m.entries ++ [e] := insertEntry_of_above above
    have whole : m.entries ++ e :: later = (m.insert e.1 e.2).entries ++ later := by
      rw [grown, List.append_assoc, List.singleton_append]
    rw [List.foldl_cons, whole]
    exact ih _ (whole ▸ ascending)

/-- A map is the map of its own entries. -/
theorem ofList_entries (m : SortedMap κ α) : ofList m.entries = m :=
  ext_entries (entries_foldl_insert m.entries empty m.ascending)

end

end SortedMap

namespace SortedSet

variable {κ : Type} [Ord κ]

theorem contains_iff_get? {s : SortedSet κ} {k : κ} :
    s.contains k = true ↔ s.get? k = some () := by
  rw [SortedMap.contains, Option.isSome_iff_exists]
  constructor
  · rintro ⟨_, there⟩
    exact there
  · intro there
    exact ⟨(), there⟩

variable [Std.TransOrd κ] [Std.LawfulEqOrd κ]

theorem contains_add_iff (s : SortedSet κ) (k k' : κ) :
    (s.add k).contains k' = true ↔ s.contains k' = true ∨ k' = k := by
  rw [contains_iff_get?, contains_iff_get?, add]
  by_cases same : k' = k
  · subst same
    rw [SortedMap.get?_insert_self]
    exact ⟨fun _ => .inr rfl, fun _ => rfl⟩
  · rw [SortedMap.get?_insert_of_ne _ _ same, or_iff_left same]

/-- Sets with the same members are equal. -/
theorem ext_contains {s s' : SortedSet κ}
    (same : ∀ k, s.contains k = true ↔ s'.contains k = true) : s = s' := by
  refine SortedMap.ext_get? fun k => Option.ext fun () => ?_
  rw [← contains_iff_get?, ← contains_iff_get?, same]

theorem ofList_eq (keys : List κ) :
    ofList keys = SortedMap.ofList (keys.map fun k => (k, ())) := by
  rw [ofList, SortedMap.ofList, List.foldl_map]
  rfl

/-- A set is the set of its own keys. -/
theorem ofList_keys (s : SortedSet κ) : ofList s.keys = s := by
  rw [ofList_eq, SortedMap.keys, List.map_map]
  exact (congrArg _ (List.map_id _)).trans (SortedMap.ofList_entries s)

end SortedSet

end YieldRules
