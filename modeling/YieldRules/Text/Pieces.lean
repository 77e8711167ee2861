/-!
# Pieces of a text between separators

Occurrences of the separator are found from the left and do not overlap, so a
text has one piece more than it has occurrences. The empty separator occurs
before the first character, after the last one and between any two.
-/

namespace YieldRules.Text

/-- Put a character in front of the first piece. -/
def extendFirst (c : Char) : List (List Char) → List (List Char)
  | [] => [[c]]
  | piece :: pieces => (c :: piece) :: pieces

/-- The pieces between the occurrences of the separator `first :: more`. -/
def piecesAt (first : Char) (more : List Char) : List Char → List (List Char)
  | [] => [[]]
  | c :: rest =>
    if c = first ∧ more.isPrefixOf rest then
      [] :: piecesAt first more (rest.drop more.length)
    else
      extendFirst c (piecesAt first more rest)
termination_by s => s.length
decreasing_by
  · simp only [List.length_drop, List.length_cons]
    omega
  · simp only [List.length_cons]
    omega

/-- The pieces of a text between the occurrences of a separator. -/
def pieces (separator s : List Char) : List (List Char) :=
  match separator with
  | [] => [] :: (s.map fun c => [c]) ++ [[]]
  | first :: more => piecesAt first more s

end YieldRules.Text
