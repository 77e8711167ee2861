import YieldRules.Text.Pieces
import Mathlib.Data.List.Basic

/-!
# Pieces between separators

The pieces of a text joined by the separator are the text again. Each piece ends where
the separator first occurs, so what was joined from pieces without the separator comes
apart into the same pieces.
-/

namespace YieldRules.Text

variable {separator s more : List Char} {first c : Char} {items : List (List Char)}

/-- A text is cut where a separator first occurs, and what follows it is cut in the same way. -/
inductive Cuts (separator : List Char) : List Char → List (List Char) → Prop where
  | whole {s : List Char} (absent : ¬ separator <:+: s) : Cuts separator s [s]
  | next {piece rest : List Char} {pieces : List (List Char)}
    (first : ∀ earlier later, earlier ++ separator ++ later = piece ++ separator ++ rest →
      piece.length ≤ earlier.length)
    (later : Cuts separator rest pieces) :
    Cuts separator (piece ++ separator ++ rest) (piece :: pieces)

theorem extendFirst_ne_nil (c : Char) (items : List (List Char)) : extendFirst c items ≠ [] := by
  cases items with
  | nil => exact List.cons_ne_nil _ _
  | cons item items => exact List.cons_ne_nil _ _

theorem extendFirst_eq_modifyHead (filled : items ≠ []) :
    extendFirst c items = items.modifyHead (c :: ·) := by
  cases items with
  | nil => exact False.elim (filled rfl)
  | cons item items => rfl

theorem intercalate_extendFirst (filled : items ≠ []) :
    separator.intercalate (extendFirst c items) = c :: separator.intercalate items := by
  cases items with
  | nil => exact False.elim (filled rfl)
  | cons item items => exact List.intercalate_cons_cons_left

theorem piecesAt_ne_nil (first : Char) (more s : List Char) : piecesAt first more s ≠ [] := by
  fun_cases piecesAt first more s with
  | case1 => exact List.cons_ne_nil _ _
  | case2 => exact List.cons_ne_nil _ _
  | case3 => exact extendFirst_ne_nil _ _

theorem append_drop_of_isPrefixOf {rest : List Char} (starts : more.isPrefixOf rest = true) :
    more ++ rest.drop more.length = rest := by
  obtain ⟨later, rfl⟩ := List.isPrefixOf_iff_prefix.mp starts
  rw [List.drop_left]

theorem intercalate_piecesAt (first : Char) (more s : List Char) :
    (first :: more).intercalate (piecesAt first more s) = s := by
  fun_induction piecesAt first more s with
  | case1 => rfl
  | case2 c rest found ih =>
    obtain ⟨rfl, starts⟩ := found
    rw [List.intercalate_cons_of_ne_nil (piecesAt_ne_nil _ _ _), ih, List.nil_append,
      List.cons_append, append_drop_of_isPrefixOf starts]
  | case3 c rest missed ih => rw [intercalate_extendFirst (piecesAt_ne_nil _ _ _), ih]

theorem intercalate_nil_left (items : List (List Char)) :
    ([] : List Char).intercalate items = items.flatten := by
  induction items with
  | nil => rfl
  | cons item items ih =>
    cases items with
    | nil => simp
    | cons next items => rw [List.intercalate_cons_cons, ih, List.append_nil, ← List.flatten_cons]

theorem intercalate_pieces (separator s : List Char) :
    separator.intercalate (pieces separator s) = s := by
  cases separator with
  | nil =>
    rw [pieces, intercalate_nil_left]
    induction s with
    | nil => rfl
    | cons c s ih => simpa using ih
  | cons first more => exact intercalate_piecesAt first more s

/-- One more character in front, where no separator starts, makes the first piece longer. -/
theorem Cuts.extend (cuts : Cuts separator s items) (elsewhere : ¬ separator <+: c :: s) :
    Cuts separator (c :: s) (extendFirst c items) := by
  cases cuts with
  | whole absent =>
    apply Cuts.whole
    rw [List.infix_cons_iff]
    exact not_or.mpr ⟨elsewhere, absent⟩
  | @next piece rest pieces first later =>
    rw [← List.cons_append, ← List.cons_append, extendFirst]
    refine .next ?_ later
    intro earlier behind split
    cases earlier with
    | nil => exact False.elim (elsewhere ⟨behind, split⟩)
    | cons d earlier =>
      have same := List.tail_eq_of_cons_eq split
      exact Nat.succ_le_succ (first earlier behind same)

theorem cuts_piecesAt (first : Char) (more s : List Char) :
    Cuts (first :: more) s (piecesAt first more s) := by
  fun_induction piecesAt first more s with
  | case1 => exact .whole (by simp)
  | case2 c rest found ih =>
    obtain ⟨rfl, starts⟩ := found
    have split : c :: rest = [] ++ c :: more ++ rest.drop more.length := by
      rw [List.nil_append, List.cons_append, append_drop_of_isPrefixOf starts]
    rw [split]
    exact .next (fun _ _ _ => Nat.zero_le _) ih
  | case3 c rest missed ih =>
    apply ih.extend
    rintro starts
    obtain ⟨same, behind⟩ := List.cons_prefix_cons.mp starts
    exact missed ⟨same.symm, List.isPrefixOf_iff_prefix.mpr behind⟩

/-- No other way to cut a text makes more pieces. -/
theorem Cuts.length_le (cuts : Cuts separator s items) (other : List (List Char))
    (joined : separator.intercalate other = s) : other.length ≤ items.length := by
  induction cuts generalizing other with
  | @whole s absent =>
    rcases other with _ | ⟨p, _ | ⟨q, other⟩⟩
    · exact Nat.zero_le _
    · exact Nat.le_refl _
    · rw [List.intercalate_cons_cons] at joined
      exact False.elim (absent ⟨p, _, joined⟩)
  | @next piece rest pieces first later ih =>
    rcases other with _ | ⟨p, _ | ⟨q, other⟩⟩
    · exact Nat.zero_le _
    · exact Nat.succ_le_succ (Nat.zero_le _)
    · rw [List.intercalate_cons_cons] at joined
      -- The first cut is not behind that of the other pieces, so what follows it is longer.
      have early := first _ _ joined
      obtain ⟨gap, reached⟩ : separator.intercalate (q :: other) <:+ rest := by
        apply List.suffix_of_suffix_length_le (List.suffix_append (p ++ separator) _)
        · exact joined ▸ List.suffix_append (piece ++ separator) rest
        · have lengths := congrArg List.length joined
          simp only [List.length_append] at lengths
          omega
      have rejoined : separator.intercalate ((gap ++ q) :: other) = rest := by
        rw [← reached]
        cases other with
        | nil => simp
        | cons r other =>
          rw [List.intercalate_cons_cons, List.intercalate_cons_cons]
          simp only [List.append_assoc]
      exact Nat.succ_le_succ (ih ((gap ++ q) :: other) rejoined)

theorem piecesAt_single (c : Char) (s : List Char) : piecesAt c [] s = s.splitOn c := by
  fun_induction piecesAt c [] s with
  | case1 => rfl
  | case2 d rest found ih =>
    obtain ⟨rfl, _⟩ := found
    rw [List.splitOn_cons_eq_if_modifyHead, if_pos (beq_self_eq_true d), ih]
    rfl
  | case3 d rest missed ih =>
    have differs : (d == c) = false := beq_eq_false_iff_ne.mpr fun same => missed ⟨same, rfl⟩
    rw [List.splitOn_cons_eq_if_modifyHead, if_neg (by simp [differs]), ih,
      extendFirst_eq_modifyHead (List.splitOn_ne_nil c rest)]

/-- Joining pieces without the separator and taking them apart gives them back. -/
theorem pieces_intercalate (filled : items ≠ []) (free : ∀ item ∈ items, c ∉ item) :
    pieces [c] ([c].intercalate items) = items :=
  (piecesAt_single c _).trans (List.splitOn_intercalate c free filled)

/-- A text has one piece more than the separator has occurrences in it. -/
theorem length_pieces_single (c : Char) (s : List Char) :
    (pieces [c] s).length = s.count c + 1 := by
  show (piecesAt c [] s).length = _
  fun_induction piecesAt c [] s with
  | case1 => rfl
  | case2 d rest found ih =>
    obtain ⟨rfl, _⟩ := found
    rw [List.length_cons, ih, List.count_cons_self]
    rfl
  | case3 d rest missed ih =>
    have differs : d ≠ c := fun same => missed ⟨same, rfl⟩
    rw [extendFirst_eq_modifyHead (piecesAt_ne_nil _ _ _), List.length_modifyHead, ih,
      List.count_cons_of_ne differs]

theorem length_pieces_nil (s : List Char) : (pieces [] s).length = s.length + 2 := by
  simp [pieces]

end YieldRules.Text
