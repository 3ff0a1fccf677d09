import RoutingCosts.Graph.Edge

set_option autoImplicit false

namespace RoutingCosts

structure StoredEdge where
  id : EdgeId
  startNode : NodeId
  endNode : NodeId
  distance : Meters
  properties : PropertyMap

/-- A stored edge read from its start node or, backward, from its end node. -/
structure Traversal where
  edge : StoredEdge
  direction : Direction

namespace StoredEdge

def forward (e : StoredEdge) : Traversal := ⟨e, .forward⟩

def backward (e : StoredEdge) : Traversal := ⟨e, .backward⟩

def read (e : StoredEdge) (d : Direction) : Traversal := ⟨e, d⟩

def traverseFrom? (e : StoredEdge) (n : NodeId) : Option Traversal :=
  if e.startNode = n then some e.forward
  else if e.endNode = n then some e.backward
  else none

end StoredEdge

namespace Traversal

def stored (t : Traversal) (d : Direction) : Direction :=
  match t.direction with
  | .forward => d
  | .backward => d.opposite

def base (t : Traversal) : NodeId :=
  match t.direction with
  | .forward => t.edge.startNode
  | .backward => t.edge.endNode

def adjacent (t : Traversal) : NodeId :=
  match t.direction with
  | .forward => t.edge.endNode
  | .backward => t.edge.startNode

def view (t : Traversal) : EdgeView where
  id := t.edge.id
  base := t.base
  adjacent := t.adjacent
  firstCovered := t.edge.id
  lastCovered := t.edge.id
  distance := t.edge.distance
  flag? p d := t.edge.properties.flag? p (t.stored d)
  number? p d := t.edge.properties.number? p (t.stored d)
  shortcut? := none

end Traversal

theorem StoredEdge.base_of_traverseFrom? {e : StoredEdge} {n : NodeId} {t : Traversal}
    (h : e.traverseFrom? n = some t) : t.base = n := by
  unfold traverseFrom? at h
  split at h
  · rename_i hs; cases h; exact hs
  · split at h
    · rename_i he; cases h; exact he
    · cases h

end RoutingCosts
