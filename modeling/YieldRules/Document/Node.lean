/-!
# Document nodes

The value of a written document before anybody decides what it means. A bare
scalar is text without quotes: whether it is a number, a truth value, nothing
at all or simply text depends on the field that it goes to. Tables keep their
entries in the order in which they are written.
-/

namespace YieldRules

/-- The key of a table entry, as written. -/
inductive Key where
  /-- A name in a format where every key is a name. -/
  | member (name : String)
  | bare (text : String)
  | quoted (text : String)
  /-- A list or a table in the place of a key. -/
  | compound
  deriving DecidableEq, Inhabited

/-- The text of a scalar key. -/
def Key.text? : Key → Option String
  | .member s | .bare s | .quoted s => some s
  | .compound => none

inductive Node where
  | null
  | bool (value : Bool)
  | int (value : Int)
  | float (value : Float)
  | text (value : String)
  | bare (text : String)
  /-- A list, which may also be the values of the first fields of a record. -/
  | list (items : List Node)
  /-- A list in a format where no list stands for a record. -/
  | series (items : List Node)
  | table (entries : List (Key × Node))
  deriving Inhabited

end YieldRules
