import YieldRules.Proofs.Entries

/-!
# Searches in an order

A search goes through places in an order and stops at the first one where it
finds something. What it comes to is said here without the search: something is
found at a place, and whatever else there is to find is at places behind it.
Searches that follow one another are again a search, as long as the places of
the later one are behind those of the earlier one.
-/

namespace YieldRules

variable {α σ δ : Type} {before : σ → σ → Prop} {found found' : σ → δ → Prop} {o o' : Option δ}
variable {d : δ}

theorem findSome?_cons_or {β : Type} (f : α → Option β) (x : α) (xs : List α) :
    (x :: xs).findSome? f = (f x).or (xs.findSome? f) := by
  rw [List.findSome?_cons]
  cases f x <;> rfl

theorem findSome?_flatMap {β γ : Type} (f : β → Option γ) (g : α → List β) (xs : List α) :
    (xs.flatMap g).findSome? f = xs.findSome? fun x => (g x).findSome? f := by
  induction xs with
  | nil => rfl
  | cons x xs ih => rw [List.flatMap_cons, List.findSome?_append, ih, findSome?_cons_or]

/-- What a search over places comes to: what is found at the place before all others where
something is found, or nothing. -/
def FirstFound (before : σ → σ → Prop) (found : σ → δ → Prop) : Option δ → Prop
  | none => ∀ s d, ¬ found s d
  | some d => ∃ s, found s d ∧ ∀ s' d', found s' d' → (s' = s ∧ d' = d) ∨ before s s'

namespace FirstFound

theorem congr (same : ∀ s d, found s d ↔ found' s d) (h : FirstFound before found o) :
    FirstFound before found' o := by
  obtain rfl : found = found' := funext fun s => funext fun d => propext (same s d)
  exact h

/-- The only place to search. -/
theorem single (s : σ) (o : Option δ) : FirstFound before (fun s' d => s' = s ∧ o = some d) o := by
  cases o with
  | none =>
    rintro s' d ⟨_, h⟩
    cases h
  | some d => exact ⟨s, ⟨rfl, rfl⟩, fun s' d' h => Or.inl ⟨h.1, (Option.some.inj h.2).symm⟩⟩

/-- Two searches, one behind the other. -/
theorem or (first : FirstFound before found o) (second : FirstFound before found' o')
    (apart : ∀ s d s' d', found s d → found' s' d' → before s s') :
    FirstFound before (fun s d => found s d ∨ found' s d) (o.or o') := by
  cases o with
  | some d =>
    obtain ⟨s, here, least⟩ := first
    refine ⟨s, Or.inl here, fun s' d' h => ?_⟩
    rcases h with h | later
    · exact least s' d' h
    · exact Or.inr (apart s d s' d' here later)
  | none =>
    cases o' with
    | none =>
      intro s d h
      exact h.elim (first s d) (second s d)
    | some d =>
      obtain ⟨s, here, least⟩ := second
      refine ⟨s, Or.inr here, fun s' d' h => ?_⟩
      rcases h with h | h
      · exact False.elim (first s' d' h)
      · exact least s' d' h

/-- One search for each item of a list. -/
theorem findSome? {search : α → Option δ} {seen : α → σ → δ → Prop} {xs : List α}
    (each : ∀ x ∈ xs, FirstFound before (seen x) (search x))
    (apart : xs.Pairwise fun x y => ∀ s d s' d', seen x s d → seen y s' d' → before s s') :
    FirstFound before (fun s d => ∃ x ∈ xs, seen x s d) (xs.findSome? search) := by
  induction xs with
  | nil => rintro s d ⟨x, hx, _⟩; cases hx
  | cons x xs ih =>
    obtain ⟨first, later⟩ := List.pairwise_cons.mp apart
    have rest := ih (fun y hy => each y (List.mem_cons_of_mem x hy)) later
    rw [findSome?_cons_or]
    refine ((each x List.mem_cons_self).or rest ?_).congr fun s d => ?_
    · rintro s d s' d' here ⟨y, hy, there⟩
      exact first y hy s d s' d' here there
    · exact (List.exists_mem_cons_iff (fun y => seen y s d) x xs).symm

/-- A search through a list by position. -/
theorem positions {place : Nat → σ} (ascending : ∀ m n, m < n → before (place m) (place n))
    (search : α → Option δ) (xs : List α) :
    FirstFound before (fun s d => ∃ n x, xs[n]? = some x ∧ s = place n ∧ search x = some d)
      (xs.findSome? search) := by
  have items : xs.findSome? search = xs.zipIdx.findSome? fun p => search p.1 := by
    conv => lhs; rw [← List.zipIdx_map_fst 0 xs, List.findSome?_map]
    rfl
  have ordered : xs.zipIdx.Pairwise fun p q => p.2 < q.2 := by
    have numbers : (xs.zipIdx.map Prod.snd).Pairwise (· < ·) := by
      rw [List.zipIdx_map_snd]
      exact List.pairwise_lt_range'
    exact List.pairwise_map.mp numbers
  rw [items]
  refine (findSome? (fun p _ => single (place p.2) (search p.1)) (ordered.imp ?_)).congr ?_
  · rintro p q below s d s' d' ⟨rfl, _⟩ ⟨rfl, _⟩
    exact ascending _ _ below
  · intro s d
    constructor
    · rintro ⟨p, listed, here⟩
      exact ⟨p.2, p.1, List.mk_mem_zipIdx_iff_getElem?.mp listed, here⟩
    · rintro ⟨n, x, listed, here⟩
      exact ⟨(x, n), List.mk_mem_zipIdx_iff_getElem?.mpr listed, here⟩

/-- A search through a map, one search for each entry. -/
theorem entries {κ : Type} [Ord κ] [Std.LawfulEqOrd κ] {search : κ → α → Option δ}
    {seen : κ → α → σ → δ → Prop}
    (each : ∀ k x, FirstFound before (seen k x) (search k x))
    (apart : ∀ k x k' x', compare k k' = .lt → ∀ s d s' d', seen k x s d → seen k' x' s' d' →
      before s s')
    (m : SortedMap κ α) :
    FirstFound before (fun s d => ∃ k x, m.get? k = some x ∧ seen k x s d)
      (m.entries.findSome? fun e => search e.1 e.2) := by
  have first : FirstFound before (fun s d => ∃ e ∈ m.entries, seen e.1 e.2 s d)
      (m.entries.findSome? fun e => search e.1 e.2) :=
    findSome? (fun e _ => each e.1 e.2) (m.ascending.imp fun below => apart _ _ _ _ below)
  refine first.congr fun s d => ?_
  constructor
  · rintro ⟨e, listed, here⟩
    exact ⟨e.1, e.2, SortedMap.get?_eq_some_iff.mpr listed, here⟩
  · rintro ⟨k, x, listed, here⟩
    exact ⟨(k, x), SortedMap.get?_eq_some_iff.mp listed, here⟩

/-- A search through a map by key. -/
theorem keys {κ : Type} [Ord κ] [Std.LawfulEqOrd κ] {place : κ → σ}
    (ascending : ∀ k k', compare k k' = .lt → before (place k) (place k'))
    (search : κ → α → Option δ) (m : SortedMap κ α) :
    FirstFound before (fun s d => ∃ k x, m.get? k = some x ∧ s = place k ∧ search k x = some d)
      (m.entries.findSome? fun e => search e.1 e.2) := by
  refine entries (fun k x => single (place k) (search k x)) ?_ m
  rintro k x k' x' below s d s' d' ⟨rfl, _⟩ ⟨rfl, _⟩
  exact ascending k k' below

theorem eq_none_iff (h : FirstFound before found o) : o = none ↔ ∀ s d, ¬ found s d := by
  cases o with
  | none => exact iff_of_true rfl h
  | some d =>
    obtain ⟨s, here, _⟩ := h
    exact iff_of_false (by simp) fun nothing => nothing s d here

/-- In an order without circles the first finding is the one that nothing is found before. -/
theorem eq_some_iff (asymm : ∀ s s', before s s' → ¬ before s' s)
    (h : FirstFound before found o) :
    o = some d ↔ ∃ s, found s d ∧ ∀ s' d', before s' s → ¬ found s' d' := by
  cases o with
  | none => exact iff_of_false (by simp) fun ⟨s, here, _⟩ => h s d here
  | some d₀ =>
    obtain ⟨s₀, here, least⟩ := h
    constructor
    · rintro ⟨⟩
      refine ⟨s₀, here, fun s' d' earlier there => ?_⟩
      rcases least s' d' there with ⟨rfl, _⟩ | later
      · exact asymm _ _ earlier earlier
      · exact asymm _ _ earlier later
    · rintro ⟨s, there, nothing⟩
      rcases least s d there with ⟨_, rfl⟩ | later
      · rfl
      · exact False.elim (nothing s₀ d₀ later here)

end FirstFound

end YieldRules
