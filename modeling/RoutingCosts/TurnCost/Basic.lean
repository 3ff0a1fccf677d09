import RoutingCosts.Number.Binary
import RoutingCosts.TurnCost.QueryGraph
import RoutingCosts.TurnCost.Table
import RoutingCosts.TurnCost.Traced

/-!
# Costs of turns

`TurnCosts` tells the weight and the time of every turn. Besides the ways of the library itself
there are outside sources, of which nothing is known but their answers.
-/

set_option autoImplicit false

namespace RoutingCosts

/-- Answers about turns from elsewhere, as they would be given now: the source may change its
    answers later, but no single cost asks it twice. -/
structure Source where
  id : Nat
  weight : Turn → Float
  time : Turn → UInt64

inductive TurnCosts where
  | free
  /-- Costs from a table. Turning back costs `uTurn`; it is forbidden without. -/
  | table (table : TurnTable) (uTurn : Option Float)
  /-- The costs of a base graph, carried over to its extension for a query. -/
  | extended (base : TurnCosts) (graph : QueryGraph)
  | outside (source : Source)

/-- The weight of a turn by a table. Turns from or to no edge are free. -/
def TurnTable.weight (t : TurnTable) (uTurn : Option Float) (turn : Turn) : Float :=
  if turn.inEdge = invalidEdge ∨ turn.outEdge = invalidEdge then 0
  else if turn.inEdge = turn.outEdge then uTurn.getD restrictedWeight
  else match t.get? turn with
    | some c => c.weight
    | none => 0

/-- Whole milliseconds for a weight in seconds; forbidden turns have a time of their own. -/
def turnTime (weight : Float) : UInt64 :=
  if restrictedWeight ≤ weight then restrictedTime else roundToWord (weight * 1000.0)

theorem turnTime_zero : turnTime 0 = 0 := by decide

theorem turnTime_restrictedWeight : turnTime restrictedWeight = restrictedTime := by decide

namespace TurnCosts

def ofTable (t : TurnTable) (uTurn : Option Float) : Except CostError TurnCosts :=
  match uTurn with
  | some w => if isCharge w then .ok (.table t uTurn) else .error (.invalidUTurnCost w)
  | none => .ok (.table t none)

def weight : TurnCosts → Turn → Traced Float
  | .free, _ => pure 0
  | .table t uTurn, turn => pure (t.weight uTurn turn)
  | .extended costs g, turn =>
    match g.ruling turn with
    | .free => pure 0
    | .forbidden => pure restrictedWeight
    | .base turn => costs.weight turn
  | .outside s, turn => ⟨s.weight turn, [⟨s.id, .weight, turn⟩]⟩

def time : TurnCosts → Turn → Traced UInt64
  | .free, _ => pure 0
  | .table t uTurn, turn => pure (turnTime (t.weight uTurn turn))
  | .extended costs g, turn =>
    match g.ruling turn with
    | .free => pure 0
    | .forbidden => pure restrictedTime
    | .base turn => costs.time turn
  | .outside s, turn => ⟨s.time turn, [⟨s.id, .time, turn⟩]⟩

end TurnCosts

end RoutingCosts
