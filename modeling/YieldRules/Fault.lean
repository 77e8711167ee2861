import YieldRules.Collection
import YieldRules.Argument

/-!
# Evaluation faults

Why an evaluation has no result, and the words for it.
-/

namespace YieldRules

inductive Fault where
  | missingArgument (name : String)
  | notANumber (name value : String)
  /-- The arguments, listed, hold nothing that can be used. -/
  | unhandledArguments (listing : String)
  | invalidInput (reason : String)
  | unknownCollection (name : String)
  | unknownSetType (name : String)
  | unknownEra (age : Option DataName)
  | missingParent (collection : Collection)
  | tooDeep (setId : DataName) (limit : Nat)
  deriving DecidableEq

namespace Fault

def ofArgument : ArgumentFault → Fault
  | .missing name => missingArgument name
  | .notANumber name value => notANumber name value

instance : Coe ArgumentFault Fault := ⟨ofArgument⟩

/-- An age as a message shows it. -/
def showAge : Option DataName → String
  | none => "None"
  | some age => "Some(" ++ Text.quoted age ++ ")"

def message : Fault → String
  | missingArgument name => s!"missing required argument: {name}"
  | notANumber name value => s!"argument {name} is not a number: " ++ Text.quoted value
  | unhandledArguments listing => s!"unhandled modifier arguments: {listing}"
  | invalidInput reason => s!"invalid input: {reason}"
  | unknownCollection name => s!"unknown collection type: {name}"
  | unknownSetType name => s!"unknown requirement set type: {name}"
  | unknownEra age => s!"current age {showAge age} cannot be resolved"
  | missingParent collection => s!"{collection.name} requires a parent subject"
  | tooDeep setId limit => s!"requirement set {setId} nested deeper than {limit} levels"

end Fault

end YieldRules
