import RoutingCosts.TurnCost.Basic
import RoutingCosts.Weighting.Edge
import RoutingCosts.Weighting.Hints

/-!
# Weightings

A weighting tells what an edge costs together with the turn onto it or off it. It is a cost model
for a vehicle with costs of turns; for a query, other costs of turns can be put over a weighting,
which changes nothing else about it.
-/

set_option autoImplicit false

namespace RoutingCosts

/-- What all cost models share: their name, their vehicle and the costs of turns. -/
structure Basis where
  key : Key
  vehicle : Vehicle
  turnCosts : TurnCosts

def Basis.new (name : String) (v : Vehicle) (turnCosts : TurnCosts) : Except CostError Basis :=
  if !v.registered then .error (.unregisteredVehicle v.name)
  else (Key.new name v.name).map fun key => ⟨key, v, turnCosts⟩

/-- A weighting of either cost model. The model is its tag: whatever the weighting is asked for, the
    cost model it carries answers from the one basis they share. -/
structure PlainWeighting where
  model : CostModel
  basis : Basis

namespace PlainWeighting

def new (model : CostModel) (v : Vehicle) (turnCosts : TurnCosts) :
    Except CostError PlainWeighting :=
  (Basis.new model.name v turnCosts).map fun basis => ⟨model, basis⟩

theorem new_eq_ok_iff {model : CostModel} {v : Vehicle} {costs : TurnCosts} {w : PlainWeighting} :
    new model v costs = .ok w ↔
      v.registered = true ∧ w = ⟨model, ⟨⟨model.name, v.name⟩, v, costs⟩⟩ := by
  have hn : isValidName model.name = true := by cases model <;> decide
  cases hv : v.registered <;>
    simp [new, Basis.new, Key.new, hv, hn, Except.map, eq_comm]

/-- Weightings of one cost model and one key count as the same, whatever their costs of turns. -/
def sameAs (w x : PlainWeighting) : Bool := w.model == x.model && w.basis.key == x.basis.key

end PlainWeighting

inductive Weighting where
  | plain (weighting : PlainWeighting)
  | query (inner : Weighting) (turnCosts : TurnCosts)

def saturatingAdd (a b : UInt64) : UInt64 := .ofNatClamp (a.toNat + b.toNat)

namespace EdgeView

/-- The turn between an edge and `adj`, which comes before it going forward and after it going
    backward; none if there is no such edge. The edge begins with `first` and ends with `last`. -/
def turn? (e : EdgeView) (first last : EdgeId) (d : Direction) (adj : EdgeId) : Option Turn :=
  if adj = invalidEdge then none
  else match d with
  | .forward => some ⟨adj, e.base, first⟩
  | .backward => some ⟨last, e.base, adj⟩

/-- The turn whose weight is charged lies between edges of the uncontracted graph. -/
def weightTurn? (e : EdgeView) (d : Direction) (adj : EdgeId) : Option Turn :=
  e.turn? e.firstCovered e.lastCovered d adj

def timeTurn? (e : EdgeView) (d : Direction) (adj : EdgeId) : Option Turn :=
  e.turn? e.id e.id d adj

end EdgeView

namespace TurnCosts

def chargeWeight (costs : TurnCosts) (edgeWeight : Float) (turn? : Option Turn) : Traced Float :=
  match turn? with
  | none => pure edgeWeight
  | some turn => do return edgeWeight + (← costs.weight turn)

def chargeTime (costs : TurnCosts) (edgeTime : Except CostError UInt64) (turn? : Option Turn) :
    Traced (Except CostError UInt64) :=
  match edgeTime, turn? with
  | .error e, _ => pure (.error e)
  | .ok t, none => pure (.ok t)
  | .ok t, some turn => do return .ok (saturatingAdd t (← costs.time turn))

end TurnCosts

namespace Weighting

def key : Weighting → Key
  | .plain w => w.basis.key
  | .query inner _ => inner.key

def vehicle : Weighting → Vehicle
  | .plain w => w.basis.vehicle
  | .query inner _ => inner.vehicle

def name : Weighting → String
  | .plain w => w.basis.key.name
  | .query inner _ => inner.name

def turnCosts : Weighting → TurnCosts
  | .plain w => w.basis.turnCosts
  | .query _ costs => costs

def minWeight : Weighting → Meters → Float
  | .plain w, distance => w.model.minWeight w.basis.vehicle distance
  | .query inner _, distance => inner.minWeight distance

def edgeWeight : Weighting → EdgeView → Direction → Float
  | .plain w, e, d => w.model.edgeWeight w.basis.vehicle e d
  | .query inner _, e, d => inner.edgeWeight e d

def edgeTime : Weighting → EdgeView → Direction → Except CostError UInt64
  | .plain w, e, d => w.basis.vehicle.edgeTime e d
  | .query inner _, e, d => inner.edgeTime e d

def weightWith (w : Weighting) (costs : TurnCosts) (e : EdgeView) (d : Direction) (adj : EdgeId) :
    Traced Float :=
  costs.chargeWeight (w.edgeWeight e d) (e.weightTurn? d adj)

def timeWith (w : Weighting) (costs : TurnCosts) (e : EdgeView) (d : Direction) (adj : EdgeId) :
    Traced (Except CostError UInt64) :=
  costs.chargeTime (w.edgeTime e d) (e.timeTurn? d adj)

/-- A query charges its own costs of turns on the bare edge of the weighting below it. -/
def weight : Weighting → EdgeView → Direction → EdgeId → Traced Float
  | .plain w, e, d, adj => weightWith (.plain w) w.basis.turnCosts e d adj
  | .query inner costs, e, d, adj => inner.weightWith costs e d adj

def time : Weighting → EdgeView → Direction → EdgeId → Traced (Except CostError UInt64)
  | .plain w, e, d, adj => timeWith (.plain w) w.basis.turnCosts e d adj
  | .query inner costs, e, d, adj => inner.timeWith costs e d adj

def turnWeight : Weighting → Turn → Traced Float
  | .plain w, turn => w.basis.turnCosts.weight turn
  | .query _ costs, turn => costs.weight turn

def turnTime : Weighting → Turn → Traced UInt64
  | .plain w, turn => w.basis.turnCosts.time turn
  | .query _ costs, turn => costs.time turn

theorem weight_eq_charge (w : Weighting) (e : EdgeView) (d : Direction) (adj : EdgeId) :
    w.weight e d adj = w.turnCosts.chargeWeight (w.edgeWeight e d) (e.weightTurn? d adj) := by
  cases w <;> rfl

theorem time_eq_charge (w : Weighting) (e : EdgeView) (d : Direction) (adj : EdgeId) :
    w.time e d adj = w.turnCosts.chargeTime (w.edgeTime e d) (e.timeTurn? d adj) := by
  cases w <;> rfl

theorem weight_invalidEdge (w : Weighting) (e : EdgeView) (d : Direction) :
    w.weight e d invalidEdge = pure (w.edgeWeight e d) := by
  simp [weight_eq_charge, EdgeView.weightTurn?, EdgeView.turn?, TurnCosts.chargeWeight]

def canAccess (w : Weighting) (e : EdgeView) : Bool :=
  (w.edgeWeight e .forward).isFinite || (w.edgeWeight e .backward).isFinite

def matchesHints : Weighting → Hints → Bool
  | .plain w, h => h.matchesKey w.basis.key
  | .query inner _, h => inner.matchesHints h

def fileName (w : Weighting) : String := w.key.fileName

def hierarchyFileName (w : Weighting) : String := "ch_" ++ w.fileName

end Weighting

end RoutingCosts
