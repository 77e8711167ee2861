import YieldRules.Id

/-!
# Yields and upkeep

The seven yields, and what a constructible type costs a city per yield. Costs
are negative amounts, as the game reports them.
-/

namespace YieldRules

inductive YieldKind where
  | food
  | production
  | gold
  | science
  | culture
  | happiness
  | diplomacy
  deriving DecidableEq

namespace YieldKind

def name : YieldKind → String
  | food => "YIELD_FOOD"
  | production => "YIELD_PRODUCTION"
  | gold => "YIELD_GOLD"
  | science => "YIELD_SCIENCE"
  | culture => "YIELD_CULTURE"
  | happiness => "YIELD_HAPPINESS"
  | diplomacy => "YIELD_DIPLOMACY"

def all : List YieldKind :=
  [food, production, gold, science, culture, happiness, diplomacy]

def ofName? (s : String) : Option YieldKind :=
  all.find? fun y => y.name = s

/-- The place of a yield in every table of yields. -/
def rank : YieldKind → Nat
  | food => 0
  | production => 1
  | gold => 2
  | science => 3
  | culture => 4
  | happiness => 5
  | diplomacy => 6

theorem eq_of_rank_eq {a b : YieldKind} (h : a.rank = b.rank) : a = b := by
  cases a <;> cases b <;> simp_all [rank]

instance : Ord YieldKind := ⟨fun a b => compare a.rank b.rank⟩

instance : Std.TransOrd YieldKind where
  eq_swap {a b} := Std.OrientedOrd.eq_swap (a := a.rank) (b := b.rank)
  isLE_trans {a b c} := Std.TransOrd.isLE_trans (a := a.rank) (b := b.rank) (c := c.rank)

instance : Std.LawfulEqOrd YieldKind where
  compare_self {a} := Std.ReflOrd.compare_self (a := a.rank)
  eq_of_compare h := eq_of_rank_eq (Std.LawfulEqOrd.eq_of_compare h)

instance : Serial YieldKind where
  toNode y := .text y.name
  ofNode? n := do ofName? (← n.name?)

instance : SerialKey YieldKind where
  toKey y := .member y.name
  ofKey? k := do ofName? (← k.text?)

end YieldKind

/-- Amounts per yield; a yield that is not listed has none. -/
abbrev Maintenance := SortedMap YieldKind Float

/-- The amount of a yield. -/
def Maintenance.amount (m : Maintenance) (y : YieldKind) : Float :=
  (m.get? y).getD 0

end YieldRules
