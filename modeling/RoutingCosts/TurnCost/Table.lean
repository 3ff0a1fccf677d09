import RoutingCosts.Assoc
import RoutingCosts.Error

set_option autoImplicit false

namespace RoutingCosts

def restrictedWeight : Float := 1.0e15

def restrictedTime : UInt64 := 1000000000000000000

def isCharge (x : Float) : Bool := x.isFinite && !decide (x < 0)

inductive TurnCost where
  | cost (weight : Float)
  | restricted
deriving DecidableEq

def TurnCost.weight : TurnCost → Float
  | .cost w => w
  | .restricted => restrictedWeight

abbrev TurnTable := Assoc Turn TurnCost

namespace TurnTable

/-- What is told of a cost that is put into the table, and the table as it is then. -/
def putCost (t : TurnTable) (turn : Turn) (weight : Float) : Except CostError Unit × TurnTable :=
  if isCharge weight then (.ok (), t.insert turn (.cost weight))
  else (.error (.invalidTurnCost turn weight), t)

def addCost (t : TurnTable) (turn : Turn) (weight : Float) : Except CostError TurnTable :=
  (t.putCost turn weight).1.map fun _ => (t.putCost turn weight).2

def addRestriction (t : TurnTable) (turn : Turn) : TurnTable := t.insert turn .restricted

end TurnTable

end RoutingCosts
