import YieldRules.Id

/-!
# Tags of types

Every type may carry any number of tags. The table holds the set of tags of
each type that has one.
-/

namespace YieldRules

abbrev Tags := SortedMap DataName (SortedSet String)

namespace Tags

def tagsOf? (tags : Tags) (type : DataName) : Option (SortedSet String) :=
  tags.get? type

/-- Add a tag to a type, next to those that it has. -/
def tag (tags : Tags) (type : DataName) (name : String) : Tags :=
  tags.insert type (((tags.tagsOf? type).getD {}).add name)

/-- The table of some rows, each a type and one of its tags. -/
def ofRows (rows : List (DataName × String)) : Tags :=
  rows.foldl (fun tags row => tags.tag row.1 row.2) {}

def has (tags : Tags) (type : DataName) (name : String) : Bool :=
  (tags.tagsOf? type).any (·.contains name)

end Tags

end YieldRules
