import Mathlib.Algebra.Ring.Nat
import Mathlib.Data.List.Nodup
import RoutingCosts.Proofs.TurnCost.Extension

set_option autoImplicit false

namespace RoutingCosts

namespace QueryGraph

/-- Virtual edges are added one after another. Gives the number of each, and the graph with all. -/
def addVirtualEdges (g : QueryGraph) : List EdgeId → List EdgeId × QueryGraph
  | [] => ([], g)
  | split :: splits =>
    let added := (g.addVirtualEdge split).addVirtualEdges splits
    (g.nextEdge :: added.1, added.2)

theorem addVirtualEdges_eq (g : QueryGraph) (splits : List EdgeId) :
    g.addVirtualEdges splits =
      ((List.range splits.length).map fun k => ((splits.take k).foldl addVirtualEdge g).nextEdge,
        splits.foldl addVirtualEdge g) := by
  induction splits generalizing g with
  | nil => rfl
  | cons split splits ih =>
    rw [addVirtualEdges, ih, List.length_cons, List.range_succ_eq_map, List.map_cons, List.map_map]
    rfl

section Step

variable {g : QueryGraph} {e : EdgeId} (split : EdgeId)

theorem baseEdge_addVirtualEdge_of_ne (h : e ≠ g.nextEdge) :
    (g.addVirtualEdge split).baseEdge e = g.baseEdge e := by
  have hplace : (e - g.edgeCount).toNat ≠ g.splitEdges.length := by
    intro hk
    have hword : (e - g.edgeCount).toNat.toUInt64 = e - g.edgeCount := UInt64.ofNat_toNat
    rw [nextEdge, ← hk, hword] at h
    grind
  have hfound : (g.splitEdges ++ [split]).getD (e - g.edgeCount).toNat invalidEdge =
      g.splitEdges.getD (e - g.edgeCount).toNat invalidEdge := by
    rcases Nat.lt_or_gt_of_ne hplace with hlt | hgt
    · exact List.getD_append _ _ _ _ hlt
    · have hend : (g.splitEdges ++ [split]).length ≤ (e - g.edgeCount).toNat := by
        rw [List.length_append, List.length_singleton]
        exact hgt
      rw [List.getD_eq_default _ _ hend, List.getD_eq_default _ _ (Nat.le_of_lt hgt)]
  change (if g.isVirtualEdge e then
    (g.splitEdges ++ [split]).getD (e - g.edgeCount).toNat invalidEdge else e) = g.baseEdge e
  rw [hfound, baseEdge]

theorem ruling_addVirtualEdge_of_ne {turn : Turn} (hin : turn.inEdge ≠ g.nextEdge)
    (hout : turn.outEdge ≠ g.nextEdge) : (g.addVirtualEdge split).ruling turn = g.ruling turn := by
  have hnode : (g.addVirtualEdge split).isVirtualNode turn.via = g.isVirtualNode turn.via := rfl
  simp only [ruling, baseEdge_addVirtualEdge_of_ne split hin,
    baseEdge_addVirtualEdge_of_ne split hout, hnode]

structure ChangesOnlyNext (g : QueryGraph) (split : EdgeId) : Prop where
  baseEdge : ∀ e ≠ g.nextEdge, (g.addVirtualEdge split).baseEdge e = g.baseEdge e
  weight : ∀ (costs : TurnCosts) (turn : Turn), turn.inEdge ≠ g.nextEdge →
    turn.outEdge ≠ g.nextEdge →
      (TurnCosts.extended costs (g.addVirtualEdge split)).weight turn =
        (TurnCosts.extended costs g).weight turn
  time : ∀ (costs : TurnCosts) (turn : Turn), turn.inEdge ≠ g.nextEdge →
    turn.outEdge ≠ g.nextEdge →
      (TurnCosts.extended costs (g.addVirtualEdge split)).time turn =
        (TurnCosts.extended costs g).time turn

theorem changesOnlyNext (g : QueryGraph) (split : EdgeId) : g.ChangesOnlyNext split where
  baseEdge _ h := baseEdge_addVirtualEdge_of_ne split h
  weight costs turn hin hout := by
    simp only [TurnCosts.weight, ruling_addVirtualEdge_of_ne split hin hout]
  time costs turn hin hout := by
    simp only [TurnCosts.time, ruling_addVirtualEdge_of_ne split hin hout]

end Step

/-- What virtual edges with these numbers are in a graph with `edges` base edges, if they were split
    from the given edges in this order. -/
structure Numbers (edges : UInt64) (splits numbers : List EdgeId) (g : QueryGraph) : Prop where
  dense : numbers.map UInt64.toNat = (List.range splits.length).map (edges.toNat + ·)
  distinct : numbers.Nodup
  notBase : ∀ e ∈ numbers, ¬ e < edges
  virtual : ∀ e ∈ numbers, g.isVirtualEdge e = true
  split : numbers.map g.baseEdge = splits
  base : ∀ e < edges, g.baseEdge e = e
  unknown : ∀ e, ¬ e < edges → e ∉ numbers → g.baseEdge e = invalidEdge
  exact : ∀ e, g.isVirtualEdge e = true → edges.toNat + (e - g.edgeCount).toNat = e.toNat

section Run

variable {nodes edges : UInt64} {splits : List EdgeId}

theorem map_toNat_numberAt (fits : edges.toNat + splits.length < 2 ^ 64) :
    ((List.range splits.length).map (numberAt nodes edges splits)).map UInt64.toNat =
      (List.range splits.length).map (edges.toNat + ·) := by
  have hinvalid : invalidEdge.toNat = 2 ^ 64 - 1 := rfl
  rw [List.map_map]
  refine List.map_congr_left fun k hk => ?_
  have hk : k < splits.length := List.mem_range.1 hk
  exact toNat_numberAt (Nat.le_of_lt hk) (by omega)

theorem map_baseEdge_numberAt (fits : edges.toNat + splits.length < 2 ^ 64) :
    ((List.range splits.length).map (numberAt nodes edges splits)).map
      (ofSplits nodes edges splits).baseEdge = splits := by
  have hinvalid : invalidEdge.toNat = 2 ^ 64 - 1 := rfl
  refine List.ext_getElem (by simp) fun k _ hk => ?_
  have hstands : StandsFor nodes edges splits (numberAt nodes edges splits k) splits[k] :=
    .virtual hk (by omega)
  simpa using hstands.baseEdge_eq

theorem numbers_numberAt (fits : edges.toNat + splits.length < 2 ^ 64) :
    Numbers edges splits ((List.range splits.length).map (numberAt nodes edges splits))
      (ofSplits nodes edges splits) := by
  have hdense := @map_toNat_numberAt nodes edges splits fits
  have hle : ∀ e ∈ (List.range splits.length).map (numberAt nodes edges splits), edges ≤ e := by
    intro e he
    have htoNat := List.mem_map_of_mem (f := UInt64.toNat) he
    rw [hdense] at htoNat
    obtain ⟨k, -, hk⟩ := List.mem_map.1 htoNat
    exact UInt64.le_iff_toNat_le.2 (by omega)
  have hgraph := @ofSplits_eq nodes edges splits
  refine ⟨hdense, ?_, fun e he => UInt64.not_lt.2 (hle e he), fun e he => ?_,
    map_baseEdge_numberAt fits, fun e he => ?_, fun e hbase hnumbers => ?_, fun e he => ?_⟩
  · have hnodup : ((List.range splits.length).map (edges.toNat + ·)).Nodup :=
      List.nodup_range.map fun _ _ h => Nat.add_left_cancel h
    rw [← hdense] at hnodup
    exact hnodup.of_map
  · rw [hgraph]
    exact decide_eq_true (hle e he)
  · have hstands : StandsFor nodes edges splits e e := .base he
    exact hstands.baseEdge_eq
  · refine baseEdge_of_never_given (UInt64.not_lt.1 hbase) fun k hk he => hnumbers ?_
    exact List.mem_map.2 ⟨k, List.mem_range.2 hk, he.symm⟩
  · rw [hgraph] at he ⊢
    have hvirtual : edges ≤ e := of_decide_eq_true he
    have hsub := UInt64.toNat_sub_of_le e edges hvirtual
    have hnat := UInt64.le_iff_toNat_le.1 hvirtual
    simp only [hsub]
    omega

end Run

/-- Virtual edges that are added to a graph one after another, as long as there are numbers for
    them, are numbered densely after its base edges and stand for the edges that they were split
    from. One more of them leaves everything else as it is. -/
theorem virtual_edges_numbered_densely (nodes edges : UInt64) (splits : List EdgeId)
    (fits : edges.toNat + splits.length < 2 ^ 64) :
    let added := (new nodes edges).addVirtualEdges splits
    Numbers edges splits added.1 added.2 ∧ ∀ split, added.2.ChangesOnlyNext split := by
  intro added
  have hadded : added = ((List.range splits.length).map (numberAt nodes edges splits),
      ofSplits nodes edges splits) := addVirtualEdges_eq _ splits
  rw [hadded]
  exact ⟨numbers_numberAt fits, changesOnlyNext _⟩

theorem virtual_edges_numbered_densely_up_to_last :
    let edges : UInt64 := 0xFFFFFFFFFFFFFFFC
    let splits : List EdgeId := [5, invalidEdge, 5]
    let added := (new 3 edges).addVirtualEdges splits
    edges.toNat + splits.length < 2 ^ 64 ∧
      added.1 = [0xFFFFFFFFFFFFFFFC, 0xFFFFFFFFFFFFFFFD, 0xFFFFFFFFFFFFFFFE] ∧
      added.2.nextEdge = invalidEdge ∧
      Numbers edges splits added.1 added.2 ∧ ∀ split, added.2.ChangesOnlyNext split := by
  intro edges splits added
  have fits : edges.toNat + splits.length < 2 ^ 64 := by decide
  exact ⟨fits, rfl, rfl, virtual_edges_numbered_densely 3 edges splits fits⟩

end QueryGraph

end RoutingCosts
