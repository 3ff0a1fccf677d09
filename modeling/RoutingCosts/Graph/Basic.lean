set_option autoImplicit false

namespace RoutingCosts

abbrev EdgeId := UInt64

abbrev NodeId := UInt64

def invalidEdge : EdgeId := 0xFFFFFFFFFFFFFFFF

def invalidNode : NodeId := 0xFFFFFFFFFFFFFFFF

def isValidEdge (e : EdgeId) : Bool := e != invalidEdge

/-- A direction along an edge, relative to the way in which the edge is read. -/
inductive Direction where
  | forward
  | backward
deriving DecidableEq, Repr

namespace Direction

def ofReverse (reverse : Bool) : Direction := if reverse then .backward else .forward

def isReverse : Direction → Bool
  | .forward => false
  | .backward => true

def opposite : Direction → Direction
  | .forward => .backward
  | .backward => .forward

def text : Direction → String
  | .forward => "Forward"
  | .backward => "Backward"

@[simp] theorem opposite_opposite (d : Direction) : d.opposite.opposite = d := by cases d <;> rfl

@[simp] theorem ofReverse_isReverse (d : Direction) : ofReverse d.isReverse = d := by
  cases d <;> rfl

end Direction

/-- Leaving `inEdge` and entering `outEdge` at the node `via`. -/
structure Turn where
  inEdge : EdgeId
  via : NodeId
  outEdge : EdgeId
deriving DecidableEq, Repr

end RoutingCosts
