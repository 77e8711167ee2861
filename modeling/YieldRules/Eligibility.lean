import YieldRules.Context
import YieldRules.Fault

/-!
# Eligibility

Whether a subject meets a requirement set. Requirements are tried in order
until the result is known. A reference is followed into the set that it names,
at most as many times in a row as the options allow, so circles of references
end in a fault. A reference to a set that does not exist is met.
-/

namespace YieldRules

/-- How the results of requirements are combined. -/
inductive Combinator where
  | all
  | any
  deriving DecidableEq

namespace Combinator

/-- The result that decides nothing; it is the result of no requirements at all. -/
def neutral : Combinator → Bool
  | all => true
  | any => false

/-- Combine the results of a test, up to the first that decides or fails. -/
def combine {α ε : Type} (c : Combinator) (test : α → Except ε Bool) : List α → Except ε Bool
  | [] => .ok c.neutral
  | x :: xs =>
    match test x with
    | .error e => .error e
    | .ok b => if b = c.neutral then combine c test xs else .ok b

end Combinator

/-- A set of an unknown type asks for all of its requirements. -/
def RequirementSetType.combinator : RequirementSetType → Combinator
  | any => .any
  | all | other _ => .all

/-- The set that a reference names. -/
def Requirement.setId (r : Requirement) : Except Fault DataName :=
  match r.arguments.required setIdArgument with
  | .ok a => .ok a.value
  | .error e => .error (.ofArgument e)

namespace Context

variable (ctx : Context) (player : PlayerId) (subject : Subject)

/-- Whether a requirement is met, when a number of references may still be followed. -/
def meets : Nat → Requirement → Except Fault Bool
  | remaining, r =>
    match r.kind with
    | .predicate _ => .ok (ctx.rules.satisfied player subject r != r.inverse)
    | .setReference =>
      match r.setId with
      | .error e => .error e
      | .ok setId =>
        match remaining with
        | 0 => .error (.tooDeep setId ctx.options.maxRequirementDepth)
        | remaining + 1 =>
          match ctx.rules.requirementSet setId with
          | none => .ok (true != r.inverse)
          | some set =>
            match set.setType.combinator.combine (meets remaining) set.requirements with
            | .error e => .error e
            | .ok b => .ok (b != r.inverse)

/-- Whether a requirement set is met. -/
def meetsSet (remaining : Nat) (set : RequirementSet) : Except Fault Bool :=
  set.setType.combinator.combine (ctx.meets player subject remaining) set.requirements

/-- Whether a subject may be reached; without requirements every subject may. -/
def isEligible (requirements : Option RequirementSet) : Except Fault Bool :=
  match requirements with
  | none => .ok true
  | some set => ctx.meetsSet player subject ctx.options.maxRequirementDepth set

end Context

end YieldRules
