import RoutingCosts.Graph.Property
import RoutingCosts.Units

set_option autoImplicit false

namespace RoutingCosts

/-- An edge that stands for two others which meet at a contracted node. -/
structure Shortcut where
  id : EdgeId
  startNode : NodeId
  endNode : NodeId
  incoming : EdgeId
  outgoing : EdgeId
  firstCovered : EdgeId
  lastCovered : EdgeId
  distance : Meters
  /-- The turn at the contracted node is included. -/
  weight : Float
deriving DecidableEq

structure EdgeView where
  id : EdgeId
  base : NodeId
  adjacent : NodeId
  /-- The first edge of the uncontracted graph that this edge covers. -/
  firstCovered : EdgeId
  lastCovered : EdgeId
  distance : Meters
  /-- Truth values; forward is the direction from the base node to the adjacent node. -/
  flag? : Property → Direction → Option Bool
  number? : Property → Direction → Option Float
  shortcut? : Option Shortcut

namespace EdgeView

def isLoop (e : EdgeView) : Bool := e.base == e.adjacent

/-- Loops have no direction of their own and are always read forward. -/
def effective (e : EdgeView) (d : Direction) : Direction := if e.isLoop then .forward else d

end EdgeView

def Shortcut.view (s : Shortcut) : EdgeView where
  id := s.id
  base := s.startNode
  adjacent := s.endNode
  firstCovered := s.firstCovered
  lastCovered := s.lastCovered
  distance := s.distance
  flag? _ _ := none
  number? _ _ := none
  shortcut? := some s

end RoutingCosts
