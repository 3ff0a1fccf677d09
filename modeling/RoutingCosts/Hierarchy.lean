import RoutingCosts.Graph.StoredEdge
import RoutingCosts.Weighting.Basic

/-!
# Edges of a contraction hierarchy

A contracted graph has the edges of the base graph and shortcuts. A search sees both as a
`RoutingEdge`, whose weight leaves out the turns that the search adds itself.
-/

set_option autoImplicit false

namespace RoutingCosts

inductive HierarchyEdge where
  | shortcut (shortcut : Shortcut)
  | edge (traversal : Traversal)

namespace HierarchyEdge

/-- Whatever is to be seen of an edge is read from what the hierarchy holds in its place. -/
def observe {α : Type} (f : EdgeView → α) : HierarchyEdge → α
  | .shortcut s => f s.view
  | .edge t => f t.view

def shortcut? : HierarchyEdge → Option Shortcut
  | .shortcut s => some s
  | .edge _ => none

def view (h : HierarchyEdge) : EdgeView where
  id := h.observe EdgeView.id
  base := h.observe EdgeView.base
  adjacent := h.observe EdgeView.adjacent
  firstCovered := h.observe EdgeView.firstCovered
  lastCovered := h.observe EdgeView.lastCovered
  distance := h.observe EdgeView.distance
  flag? p d := h.observe fun e => e.flag? p d
  number? p d := h.observe fun e => e.number? p d
  shortcut? := h.shortcut?

end HierarchyEdge

structure RoutingEdge where
  edge : EdgeView
  weighting : Weighting

namespace RoutingEdge

def isShortcut (r : RoutingEdge) : Bool := r.edge.shortcut?.isSome

def baseEdge (r : RoutingEdge) : Except CostError EdgeView :=
  if r.isShortcut then .error (.noBaseEdgeForShortcut r.edge.id) else .ok r.edge

def ofShortcut {α : Type} (r : RoutingEdge) (f : Shortcut → α) : Except CostError α :=
  match r.edge.shortcut? with
  | some s => .ok (f s)
  | none => .error (.notAShortcut r.edge.id)

def firstSkipped (r : RoutingEdge) : Except CostError EdgeId := r.ofShortcut Shortcut.incoming

def secondSkipped (r : RoutingEdge) : Except CostError EdgeId := r.ofShortcut Shortcut.outgoing

def weight (r : RoutingEdge) (d : Direction) : Traced Float :=
  match r.edge.shortcut? with
  | some s => pure s.weight
  | none => r.weighting.weight r.edge d invalidEdge

end RoutingEdge

end RoutingCosts
