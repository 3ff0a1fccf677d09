import RoutingCosts.Hierarchy

set_option autoImplicit false

namespace RoutingCosts

namespace Weighting

/-- No cost of the weighting tells two edges apart, neither by its value or its failure nor by what
    is asked on the way. -/
structure SameOn (w : Weighting) (e f : EdgeView) : Prop where
  edgeWeight : ∀ d, w.edgeWeight e d = w.edgeWeight f d
  weight : ∀ d adj, w.weight e d adj = w.weight f d adj
  edgeTime : ∀ d, w.edgeTime e d = w.edgeTime f d
  time : ∀ d adj, w.time e d adj = w.time f d adj
  canAccess : w.canAccess e = w.canAccess f

theorem SameOn.refl (w : Weighting) (e : EdgeView) : w.SameOn e e :=
  ⟨fun _ => rfl, fun _ _ => rfl, fun _ => rfl, fun _ _ => rfl, rfl⟩

end Weighting

namespace HierarchyEdge

theorem view_edge (t : Traversal) : (edge t).view = t.view := rfl

theorem view_shortcut (s : Shortcut) : (shortcut s).view = s.view := rfl

end HierarchyEdge

namespace RoutingEdge

structure IsBase (r : RoutingEdge) : Prop where
  baseEdge : r.baseEdge = .ok r.edge
  firstSkipped : r.firstSkipped = .error (.notAShortcut r.edge.id)
  secondSkipped : r.secondSkipped = .error (.notAShortcut r.edge.id)
  weight : ∀ d, r.weight d = pure (r.weighting.edgeWeight r.edge d)

structure IsShortcut (r : RoutingEdge) (s : Shortcut) : Prop where
  baseEdge : r.baseEdge = .error (.noBaseEdgeForShortcut r.edge.id)
  firstSkipped : r.firstSkipped = .ok s.incoming
  secondSkipped : r.secondSkipped = .ok s.outgoing
  weight : ∀ d, r.weight d = pure s.weight

variable {r : RoutingEdge}

theorem isBase_of_shortcut?_eq_none (h : r.edge.shortcut? = none) : r.IsBase where
  baseEdge := by simp [baseEdge, isShortcut, h]
  firstSkipped := by simp [firstSkipped, ofShortcut, h]
  secondSkipped := by simp [secondSkipped, ofShortcut, h]
  weight d := by simp only [weight, h, Weighting.weight_invalidEdge]

theorem isShortcut_of_shortcut?_eq_some {s : Shortcut} (h : r.edge.shortcut? = some s) :
    r.IsShortcut s where
  baseEdge := by simp [baseEdge, isShortcut, h]
  firstSkipped := by simp [firstSkipped, ofShortcut, h]
  secondSkipped := by simp [secondSkipped, ofShortcut, h]
  weight d := by simp only [weight, h]

/-- Each answer shows by itself whether the edge is a shortcut. -/
structure ShowsKind (r : RoutingEdge) : Prop where
  baseEdge : (∃ e, r.baseEdge = .ok e) ↔ r.edge.shortcut? = none
  firstSkipped : (∃ c, r.firstSkipped = .error c) ↔ r.edge.shortcut? = none
  secondSkipped : (∃ c, r.secondSkipped = .error c) ↔ r.edge.shortcut? = none

theorem showsKind (r : RoutingEdge) : r.ShowsKind := by
  cases h : r.edge.shortcut? with
  | none =>
    have hr := isBase_of_shortcut?_eq_none h
    exact ⟨by simp [hr.baseEdge, h], by simp [hr.firstSkipped, h], by simp [hr.secondSkipped, h]⟩
  | some s =>
    have hr := isShortcut_of_shortcut?_eq_some h
    exact ⟨by simp [hr.baseEdge, h], by simp [hr.firstSkipped, h], by simp [hr.secondSkipped, h]⟩

theorem asked_weight (r : RoutingEdge) (d : Direction) : (r.weight d).asked = [] := by
  cases h : r.edge.shortcut? with
  | none => rw [(isBase_of_shortcut?_eq_none h).weight, Traced.asked_pure]
  | some s => rw [(isShortcut_of_shortcut?_eq_some h).weight, Traced.asked_pure]

end RoutingEdge

/-- A contraction hierarchy is transparent: it shows the edges and shortcuts it holds as they are,
    and a routing edge over any edge answers by what that edge is. -/
theorem hierarchy_transparent (w : Weighting) :
    (∀ t : Traversal, (HierarchyEdge.edge t).view = t.view ∧
        w.SameOn (HierarchyEdge.edge t).view t.view) ∧
      (∀ s : Shortcut, (HierarchyEdge.shortcut s).view = s.view ∧
        w.SameOn (HierarchyEdge.shortcut s).view s.view) ∧
      ∀ e : EdgeView,
        (RoutingEdge.mk e w).ShowsKind ∧
          (e.shortcut? = none → (RoutingEdge.mk e w).IsBase) ∧
          (∀ s, e.shortcut? = some s → (RoutingEdge.mk e w).IsShortcut s) ∧
          ∀ d, ((RoutingEdge.mk e w).weight d).asked = [] := by
  refine ⟨fun t => ?_, fun s => ?_, fun e => ?_⟩
  · rw [HierarchyEdge.view_edge]
    exact ⟨rfl, .refl w t.view⟩
  · rw [HierarchyEdge.view_shortcut]
    exact ⟨rfl, .refl w s.view⟩
  · let r : RoutingEdge := ⟨e, w⟩
    have hbase : r.edge.shortcut? = none → r.IsBase := RoutingEdge.isBase_of_shortcut?_eq_none
    have hshortcut (s : Shortcut) : r.edge.shortcut? = some s → r.IsShortcut s :=
      RoutingEdge.isShortcut_of_shortcut?_eq_some
    exact ⟨r.showsKind, hbase, hshortcut, r.asked_weight⟩

end RoutingCosts
