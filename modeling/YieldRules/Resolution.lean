import YieldRules.Candidates
import YieldRules.Eligibility

/-!
# Resolution

The subjects of a modifier are the candidates of its collection that meet its
subject requirements, in their order and as often as they are offered. The
first candidate that cannot be judged is the fault of the whole resolution.
-/

namespace YieldRules

/-- Keep the items that pass a test, unless the test fails on one. -/
def filterChecked {α ε : Type} (test : α → Except ε Bool) : List α → Except ε (List α)
  | [] => .ok []
  | x :: xs =>
    match test x with
    | .error e => .error e
    | .ok keep =>
      match filterChecked test xs with
      | .error e => .error e
      | .ok kept => .ok (if keep then x :: kept else kept)

/-- The subjects of a modifier for a player. Requirements on the owner are not tested here. -/
def Context.subjects (ctx : Context) (player : PlayerId) (m : Modifier)
    (parent : Option Subject) : Except Fault (List Subject) :=
  filterChecked (fun s => ctx.isEligible player s m.subjectRequirements)
    (ctx.candidates player parent m.collection)

end YieldRules
