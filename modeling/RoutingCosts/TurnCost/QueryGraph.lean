import RoutingCosts.Graph.Basic

set_option autoImplicit false

namespace RoutingCosts

structure QueryGraph where
  nodeCount : UInt64
  edgeCount : UInt64
  /-- The base edges that the virtual edges were split from, in the order of their numbers. -/
  splitEdges : List EdgeId
deriving DecidableEq, Repr

/-- What a turn of the extended graph comes down to. -/
inductive Ruling where
  | free
  | forbidden
  | base (turn : Turn)
deriving DecidableEq, Repr

namespace QueryGraph

def new (nodeCount edgeCount : UInt64) : QueryGraph := ⟨nodeCount, edgeCount, []⟩

def nextEdge (g : QueryGraph) : EdgeId := g.edgeCount + g.splitEdges.length.toUInt64

def addVirtualEdge (g : QueryGraph) (split : EdgeId) : QueryGraph :=
  { g with splitEdges := g.splitEdges ++ [split] }

def isVirtualNode (g : QueryGraph) (n : NodeId) : Bool := decide (g.nodeCount ≤ n)

def isVirtualEdge (g : QueryGraph) (e : EdgeId) : Bool := decide (g.edgeCount ≤ e)

/-- The base edge that an edge stands for; no edge if it was never added. -/
def baseEdge (g : QueryGraph) (e : EdgeId) : EdgeId :=
  if g.isVirtualEdge e then g.splitEdges.getD (e - g.edgeCount).toNat invalidEdge else e

/-- Turns with an unknown edge are free. At a virtual node only turning back is forbidden. -/
def ruling (g : QueryGraph) (t : Turn) : Ruling :=
  if t.inEdge = invalidEdge ∨ t.outEdge = invalidEdge then .free
  else
    let inEdge := g.baseEdge t.inEdge
    let outEdge := g.baseEdge t.outEdge
    if inEdge = invalidEdge ∨ outEdge = invalidEdge then .free
    else if g.isVirtualNode t.via then if inEdge = outEdge then .forbidden else .free
    else .base ⟨inEdge, t.via, outEdge⟩

end QueryGraph

end RoutingCosts
