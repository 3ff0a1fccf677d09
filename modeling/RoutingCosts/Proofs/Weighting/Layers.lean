import RoutingCosts.Weighting.Basic

set_option autoImplicit false

namespace RoutingCosts

namespace TurnCosts

def sources : TurnCosts → List Nat
  | .free => []
  | .table _ _ => []
  | .extended costs _ => costs.sources
  | .outside s => [s.id]

theorem source_mem_of_mem_asked_weight (costs : TurnCosts) (turn : Turn) (q : Question)
    (h : q ∈ (costs.weight turn).asked) : q.source ∈ costs.sources := by
  induction costs generalizing turn with
  | free => simp [weight] at h
  | table t uTurn => simp [weight] at h
  | extended costs g ih =>
    simp only [weight] at h
    split at h
    · simp at h
    · simp at h
    · exact ih _ h
  | outside s =>
    simp only [weight, List.mem_singleton] at h
    simp [h, sources]

theorem source_mem_of_mem_asked_time (costs : TurnCosts) (turn : Turn) (q : Question)
    (h : q ∈ (costs.time turn).asked) : q.source ∈ costs.sources := by
  induction costs generalizing turn with
  | free => simp [time] at h
  | table t uTurn => simp [time] at h
  | extended costs g ih =>
    simp only [time] at h
    split at h
    · simp at h
    · simp at h
    · exact ih _ h
  | outside s =>
    simp only [time, List.mem_singleton] at h
    simp [h, sources]

theorem source_mem_of_mem_asked_chargeWeight (costs : TurnCosts) (x : Float) (turn? : Option Turn)
    (q : Question) (h : q ∈ (costs.chargeWeight x turn?).asked) : q.source ∈ costs.sources := by
  cases turn? with
  | none => simp [chargeWeight] at h
  | some turn =>
    simp only [chargeWeight, Traced.asked_bind, Traced.asked_pure, List.append_nil] at h
    exact source_mem_of_mem_asked_weight costs turn q h

theorem source_mem_of_mem_asked_chargeTime (costs : TurnCosts) (t : Except CostError UInt64)
    (turn? : Option Turn) (q : Question) (h : q ∈ (costs.chargeTime t turn?).asked) :
    q.source ∈ costs.sources := by
  cases t with
  | error e => simp [chargeTime] at h
  | ok t =>
    cases turn? with
    | none => simp [chargeTime] at h
    | some turn =>
      simp only [chargeTime, Traced.asked_bind, Traced.asked_pure, List.append_nil] at h
      exact source_mem_of_mem_asked_time costs turn q h

end TurnCosts

namespace Weighting

def layered (w : Weighting) (layers : List TurnCosts) : Weighting := layers.foldl .query w

structure SameEdges (w x : Weighting) : Prop where
  key : w.key = x.key
  vehicle : w.vehicle = x.vehicle
  name : w.name = x.name
  fileName : w.fileName = x.fileName
  hierarchyFileName : w.hierarchyFileName = x.hierarchyFileName
  minWeight : ∀ distance, w.minWeight distance = x.minWeight distance
  edgeWeight : ∀ e d, w.edgeWeight e d = x.edgeWeight e d
  edgeTime : ∀ e d, w.edgeTime e d = x.edgeTime e d
  canAccess : ∀ e, w.canAccess e = x.canAccess e
  matchesHints : ∀ h, w.matchesHints h = x.matchesHints h

/-- Two weightings that tell the same wherever turns are charged, after the same questions. -/
structure SameTurns (w x : Weighting) : Prop where
  weight : ∀ e d adj, w.weight e d adj = x.weight e d adj
  time : ∀ e d adj, w.time e d adj = x.time e d adj
  turnWeight : ∀ turn, w.turnWeight turn = x.turnWeight turn
  turnTime : ∀ turn, w.turnTime turn = x.turnTime turn

/-- No outside source is asked anything but those of the given costs of turns. -/
structure AsksOnly (w : Weighting) (costs : TurnCosts) : Prop where
  weight : ∀ e d adj, ∀ q ∈ (w.weight e d adj).asked, q.source ∈ costs.sources
  time : ∀ e d adj, ∀ q ∈ (w.time e d adj).asked, q.source ∈ costs.sources
  turnWeight : ∀ turn, ∀ q ∈ (w.turnWeight turn).asked, q.source ∈ costs.sources
  turnTime : ∀ turn, ∀ q ∈ (w.turnTime turn).asked, q.source ∈ costs.sources

theorem SameEdges.refl (w : Weighting) : SameEdges w w :=
  ⟨rfl, rfl, rfl, rfl, rfl, fun _ => rfl, fun _ _ => rfl, fun _ _ => rfl, fun _ => rfl,
    fun _ => rfl⟩

theorem SameEdges.trans {w x y : Weighting} (h : SameEdges w x) (k : SameEdges x y) :
    SameEdges w y where
  key := h.key.trans k.key
  vehicle := h.vehicle.trans k.vehicle
  name := h.name.trans k.name
  fileName := h.fileName.trans k.fileName
  hierarchyFileName := h.hierarchyFileName.trans k.hierarchyFileName
  minWeight distance := (h.minWeight distance).trans (k.minWeight distance)
  edgeWeight e d := (h.edgeWeight e d).trans (k.edgeWeight e d)
  edgeTime e d := (h.edgeTime e d).trans (k.edgeTime e d)
  canAccess e := (h.canAccess e).trans (k.canAccess e)
  matchesHints hints := (h.matchesHints hints).trans (k.matchesHints hints)

theorem sameEdges_query (w : Weighting) (costs : TurnCosts) : SameEdges (w.query costs) w where
  key := rfl
  vehicle := rfl
  name := rfl
  fileName := rfl
  hierarchyFileName := rfl
  minWeight _ := rfl
  edgeWeight _ _ := rfl
  edgeTime _ _ := rfl
  canAccess _ := rfl
  matchesHints _ := rfl

theorem sameEdges_layered (w : Weighting) (layers : List TurnCosts) :
    SameEdges (w.layered layers) w := by
  induction layers generalizing w with
  | nil => exact .refl w
  | cons costs layers ih => exact (ih (w.query costs)).trans (w.sameEdges_query costs)

theorem layered_concat (w : Weighting) (layers : List TurnCosts) (last : TurnCosts) :
    w.layered (layers ++ [last]) = (w.layered layers).query last := by
  simp [layered]

theorem sameTurns_query {w : Weighting} {x : PlainWeighting} (h : SameEdges w (.plain x)) :
    SameTurns (w.query x.basis.turnCosts) (.plain x) where
  weight e d adj := by
    change w.weightWith x.basis.turnCosts e d adj = weightWith (.plain x) _ e d adj
    rw [weightWith, weightWith, h.edgeWeight]
  time e d adj := by
    change w.timeWith x.basis.turnCosts e d adj = timeWith (.plain x) _ e d adj
    rw [timeWith, timeWith, h.edgeTime]
  turnWeight _ := rfl
  turnTime _ := rfl

theorem asksOnly_query (w : Weighting) (costs : TurnCosts) : AsksOnly (w.query costs) costs where
  weight _ _ _ := costs.source_mem_of_mem_asked_chargeWeight _ _
  time _ _ _ := costs.source_mem_of_mem_asked_chargeTime _ _
  turnWeight := costs.source_mem_of_mem_asked_weight
  turnTime := costs.source_mem_of_mem_asked_time

theorem sameEdges_of_turnCosts (model : CostModel) (v : Vehicle) (costs costs' : TurnCosts) :
    SameEdges (.plain ⟨model, ⟨⟨model.name, v.name⟩, v, costs⟩⟩)
      (.plain ⟨model, ⟨⟨model.name, v.name⟩, v, costs'⟩⟩) :=
  ⟨rfl, rfl, rfl, rfl, rfl, fun _ => rfl, fun _ _ => rfl, fun _ _ => rfl, fun _ => rfl,
    fun _ => rfl⟩

/-- For a registered vehicle every stack of layers, `last` on top, refines the plain weightings:
    it is the one at its foot for all that concerns edges and names, and the one made with `last`
    for all that concerns turns. -/
theorem layered_refines_plain (model : CostModel) (v : Vehicle) (hv : v.registered = true)
    (foot : TurnCosts) (layers : List TurnCosts) (last : TurnCosts) :
    ∃ w direct : PlainWeighting,
      PlainWeighting.new model v foot = .ok w ∧ PlainWeighting.new model v last = .ok direct ∧
      SameEdges (layered (.plain w) (layers ++ [last])) (.plain w) ∧
      SameTurns (layered (.plain w) (layers ++ [last])) (.plain direct) ∧
      AsksOnly (layered (.plain w) (layers ++ [last])) last := by
  refine ⟨_, _, PlainWeighting.new_eq_ok_iff.2 ⟨hv, rfl⟩, PlainWeighting.new_eq_ok_iff.2 ⟨hv, rfl⟩,
    sameEdges_layered _ _, ?_, ?_⟩
  · rw [layered_concat]
    exact sameTurns_query ((sameEdges_layered _ layers).trans (sameEdges_of_turnCosts model v _ _))
  · rw [layered_concat]
    exact asksOnly_query _ last

theorem layered_refines_plain_of_three_sources :
    ∃ w direct : PlainWeighting,
      PlainWeighting.new .fastest ⟨"car", ⟨120⟩, true⟩ (.outside ⟨0, fun _ => 1, fun _ => 1000⟩)
        = .ok w ∧
      PlainWeighting.new .fastest ⟨"car", ⟨120⟩, true⟩ (.outside ⟨2, fun _ => 3, fun _ => 3000⟩)
        = .ok direct ∧
      SameEdges (layered (.plain w)
        [.outside ⟨1, fun _ => 2, fun _ => 2000⟩, .outside ⟨2, fun _ => 3, fun _ => 3000⟩])
        (.plain w) ∧
      SameTurns (layered (.plain w)
        [.outside ⟨1, fun _ => 2, fun _ => 2000⟩, .outside ⟨2, fun _ => 3, fun _ => 3000⟩])
        (.plain direct) ∧
      AsksOnly (layered (.plain w)
        [.outside ⟨1, fun _ => 2, fun _ => 2000⟩, .outside ⟨2, fun _ => 3, fun _ => 3000⟩])
        (.outside ⟨2, fun _ => 3, fun _ => 3000⟩) :=
  layered_refines_plain .fastest ⟨"car", ⟨120⟩, true⟩ rfl (.outside ⟨0, fun _ => 1, fun _ => 1000⟩)
    [.outside ⟨1, fun _ => 2, fun _ => 2000⟩] (.outside ⟨2, fun _ => 3, fun _ => 3000⟩)

end Weighting

end RoutingCosts
