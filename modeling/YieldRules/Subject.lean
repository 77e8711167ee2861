import YieldRules.Id

/-!
# Subjects

What a modifier may apply to. Cities and units know the plot they stand on, so
a condition on a plot can be put to every subject that has one.
-/

namespace YieldRules

inductive Subject where
  | city (city : CityId) (owner : PlayerId) (plot : PlotIndex)
  | unit (unit : UnitId) (owner : PlayerId) (plot : PlotIndex)
  | player (player : PlayerId)
  | plot (city : CityId) (plot : PlotIndex)
  deriving DecidableEq

namespace Subject

def plot? : Subject → Option PlotIndex
  | city _ _ p | unit _ _ p | plot _ p => some p
  | player _ => none

def city? : Subject → Option CityId
  | city c _ _ | plot c _ => some c
  | unit .. | player _ => none

def unit? : Subject → Option UnitId
  | unit u _ _ => some u
  | _ => none

def kind : Subject → String
  | city .. => "city"
  | unit .. => "unit"
  | player _ => "player"
  | plot .. => "plot"

/-- The fields of a subject behind its tag. -/
def fieldsBehind : String → List String
  | "City" => ["city", "owner", "plot"]
  | "Unit" => ["unit", "owner", "plot"]
  | "Player" => ["player"]
  | "Plot" => ["city", "plot"]
  | _ => []

instance : Serial Subject where
  toNode
    | city c o p => .table (field "type" "City" ++ field "city" c ++ field "owner" o ++
        field "plot" p)
    | unit u o p => .table (field "type" "Unit" ++ field "unit" u ++ field "owner" o ++
        field "plot" p)
    | player p => .table (field "type" "Player" ++ field "player" p)
    | plot c p => .table (field "type" "Plot" ++ field "city" c ++ field "plot" p)
  ofNode? n := do
    let (tag, fields) ← n.taggedFields? "type" fieldsBehind
    match tag with
    | "City" =>
      return city (← fields.required "city") (← fields.required "owner") (← fields.required "plot")
    | "Unit" =>
      return unit (← fields.required "unit") (← fields.required "owner") (← fields.required "plot")
    | "Player" => return player (← fields.required "player")
    | "Plot" => return plot (← fields.required "city") (← fields.required "plot")
    | _ => none

end Subject

end YieldRules
