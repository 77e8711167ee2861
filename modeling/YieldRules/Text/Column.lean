/-!
# Columns

Texts of one width, for reports. Width is counted in characters.
-/

namespace YieldRules.Text

/-- Pad a text on the right with spaces up to a width; a longer text stays as it is. -/
def padRight (width : Nat) (s : String) : String :=
  s ++ String.ofList (List.replicate (width - s.length) ' ')

end YieldRules.Text
