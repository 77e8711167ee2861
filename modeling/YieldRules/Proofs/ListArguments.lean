import YieldRules.Proofs.ArgumentValues
import YieldRules.Proofs.Separation
import YieldRules.Proofs.Trimming

/-!
# Arguments that are lists

Items joined by a separator are read back as they were, empty ones included, however
they were padded with white space. Any value at all is read as a list, whose items are
the trimmed pieces of the value.
-/

namespace YieldRules

open Text

/-- A text is an item with white space around it. -/
def Pads (padded item : String) : Prop :=
  ∃ before after, Blank before ∧ Blank after ∧
    padded.toList = before ++ item.toList ++ after

variable {args : Arguments} {name separator : String} {a : Argument} {c : Char}
variable {padded item : String} {items paddedItems : List String}

theorem Pads.trim (pads : Pads padded item) (trimmed : trim item.toList = item.toList) :
    String.ofList (Text.trim padded.toList) = item := by
  obtain ⟨before, after, blank, blank', split⟩ := pads
  rw [split, trim_padded blank blank', trimmed, String.ofList_toList]

/-- White space holds no separator that is not white space. -/
theorem Pads.free (pads : Pads padded item) (visible : isBlank c = false)
    (free : c ∉ item.toList) : c ∉ padded.toList := by
  obtain ⟨before, after, blank, blank', split⟩ := pads
  rw [split, List.mem_append, List.mem_append]
  rintro ((there | there) | there)
  · exact Bool.false_ne_true (visible.symm.trans (blank c there))
  · exact free there
  · exact Bool.false_ne_true (visible.symm.trans (blank' c there))

theorem trim_paddedItems (pads : List.Forall₂ Pads paddedItems items)
    (trimmed : ∀ item ∈ items, trim item.toList = item.toList) :
    (paddedItems.map fun padded => String.ofList (trim padded.toList)) = items := by
  induction pads with
  | nil => rfl
  | cons first _ ih =>
    obtain ⟨here, later⟩ := List.forall_mem_cons.mp trimmed
    rw [List.map_cons, first.trim here, ih later]

theorem free_paddedItems (pads : List.Forall₂ Pads paddedItems items)
    (visible : isBlank c = false) (free : ∀ item ∈ items, c ∉ item.toList) :
    ∀ padded ∈ paddedItems, c ∉ padded.toList := by
  induction pads with
  | nil => exact List.forall_mem_nil _
  | cons first _ ih =>
    obtain ⟨here, later⟩ := List.forall_mem_cons.mp free
    exact List.forall_mem_cons.mpr ⟨first.free visible here, ih later⟩

namespace Arguments

theorem itemsBetween_of_get? (there : args.get? name = some a) :
    args.itemsBetween separator name =
      .ok ((pieces separator.toList a.value.toList).map fun piece => .ofList (trim piece)) := by
  rw [itemsBetween, required, there]
  rfl

theorem itemsBetween_of_absent (absent : args.get? name = none) :
    args.itemsBetween separator name = .error (.missing name) := by
  rw [itemsBetween, required, absent]
  rfl

theorem itemsBetween_joined (visible : isBlank c = false) (filled : items ≠ [])
    (plain : ∀ item ∈ items, trim item.toList = item.toList ∧ c ∉ item.toList)
    (pads : List.Forall₂ Pads paddedItems items) (there : args.get? name = some a)
    (joined : a.value = (String.singleton c).intercalate paddedItems) :
    args.itemsBetween (.singleton c) name = .ok items := by
  have free := free_paddedItems pads visible fun item listed => (plain item listed).2
  have apart : pieces [c] a.value.toList = paddedItems.map String.toList := by
    rw [joined, String.toList_intercalate, String.toList_singleton]
    apply pieces_intercalate
    · rw [ne_eq, List.map_eq_nil_iff]
      rintro rfl
      exact filled (List.forall₂_nil_left_iff.mp pads)
    · simpa using free
  have restored := trim_paddedItems pads fun item listed => (plain item listed).1
  rw [itemsBetween_of_get? there, String.toList_singleton, apart, List.map_map]
  exact congrArg _ restored

/-- Items that are joined by a separator, with any white space around each, are read back as they
were. Whatever the value and the separator are, there is one item for each piece of the value, the
piece without the white space around it, and the pieces joined by the separator are the value. There
is one piece more than there are occurrences of the separator; where it is longer than a character,
they are found from the left, and no way to cut the value finds more of them. A list cannot be read
only where the argument is missing. -/
theorem items_of_joined (args : Arguments) (name : String) :
    (∀ (c : Char) (items paddedItems : List String) (a : Argument), isBlank c = false →
      items ≠ [] → (∀ item ∈ items, trim item.toList = item.toList ∧ c ∉ item.toList) →
      List.Forall₂ Pads paddedItems items → args.get? name = some a →
      a.value = (String.singleton c).intercalate paddedItems →
      args.itemsBetween (.singleton c) name = .ok items ∧
        (c = ',' → args.items name = .ok items)) ∧
    (∀ (separator : String) (a : Argument), args.get? name = some a →
      ∃ pieces : List (List Char),
        args.itemsBetween separator name = .ok (pieces.map fun piece => .ofList (trim piece)) ∧
        separator.toList.intercalate pieces = a.value.toList ∧
        (∀ c, separator = .singleton c → pieces.length = a.value.toList.count c + 1) ∧
        (separator ≠ "" → Cuts separator.toList a.value.toList pieces ∧
          ∀ other : List (List Char), separator.toList.intercalate other = a.value.toList →
            other.length ≤ pieces.length) ∧
        (separator = "" → pieces.length = a.value.length + 2)) ∧
    (∀ (separator : String) (e : ArgumentFault),
      args.itemsBetween separator name = .error e ↔ e = .missing name ∧ args.get? name = none) := by
  refine ⟨?_, ?_, ?_⟩
  · intro c items paddedItems a visible filled plain pads there joined
    have restored := itemsBetween_joined visible filled plain pads there joined
    refine ⟨restored, ?_⟩
    rintro rfl
    exact restored
  · intro separator a there
    refine ⟨pieces separator.toList a.value.toList, itemsBetween_of_get? there,
      intercalate_pieces _ _, ?_, ?_, ?_⟩
    · rintro c rfl
      rw [String.toList_singleton]
      exact length_pieces_single c _
    · intro filled
      have cuts : Cuts separator.toList a.value.toList
          (pieces separator.toList a.value.toList) := by
        cases written : separator.toList with
        | nil => exact False.elim (filled (String.toList_eq_nil_iff.mp written))
        | cons first more => exact cuts_piecesAt first more _
      exact ⟨cuts, cuts.length_le⟩
    · rintro rfl
      exact length_pieces_nil _
  · intro separator e
    cases there : args.get? name with
    | none =>
      rw [itemsBetween_of_absent there, Except.error.injEq]
      exact ⟨fun same => ⟨same.symm, rfl⟩, fun same => same.1.symm⟩
    | some a =>
      rw [itemsBetween_of_get? there]
      constructor
      · intro failed
        cases failed
      · rintro ⟨_, absent⟩
        cases absent

end Arguments

namespace Harbour

def cargo : List String :=
  ["YIELD_FOOD", "", "SALT FISH"]

def paddedCargo : List String :=
  [" YIELD_FOOD", "\t", "SALT FISH\u3000"]

def manifest : Arguments :=
  Arguments.set {} "Cargo" ((String.singleton ',').intercalate paddedCargo)

theorem cargo_padded : List.Forall₂ Pads paddedCargo cargo := by
  have nothing : Blank [] := fun _ there => False.elim (List.not_mem_nil there)
  refine .cons ⟨[' '], [], ?_, nothing, rfl⟩ <| .cons ⟨['\t'], [], ?_, nothing, rfl⟩ <|
    .cons ⟨[], ['\u3000'], nothing, ?_, rfl⟩ .nil
  · decide
  · decide
  · decide

/-- The empty item in the middle is kept, and so is the space within an item. -/
theorem items_of_joined_harbour :
    isBlank ',' = false ∧ cargo ≠ [] ∧
    (∀ item ∈ cargo, trim item.toList = item.toList ∧ ',' ∉ item.toList) ∧
    List.Forall₂ Pads paddedCargo cargo ∧
    manifest.items "Cargo" = .ok cargo ∧ manifest.items "Crew" = .error (.missing "Crew") := by
  have visible : isBlank ',' = false := by decide
  have filled : cargo ≠ [] := by decide
  have plain : ∀ item ∈ cargo, trim item.toList = item.toList ∧ ',' ∉ item.toList := by
    decide
  have loaded : manifest.get? "Cargo" =
      some (.ofValue ((String.singleton ',').intercalate paddedCargo)) :=
    Arguments.get?_set_self ..
  have cargoItems := Arguments.items_of_joined manifest "Cargo"
  have crewItems := Arguments.items_of_joined manifest "Crew"
  refine ⟨visible, filled, plain, cargo_padded, ?_, ?_⟩
  · exact (cargoItems.1 ',' cargo paddedCargo _ visible filled plain cargo_padded loaded rfl).2
      rfl
  · exact (crewItems.2.2 "," _).mpr ⟨rfl, rfl⟩

end Harbour

end YieldRules
