import RoutingCosts.Proofs.Weighting.Verdict

set_option autoImplicit false

namespace RoutingCosts

theorem EdgeView.effective_of_isLoop {e : EdgeView} (h : e.isLoop = true) (d : Direction) :
    e.effective d = .forward := if_pos h

namespace StoredEdge

variable {e : StoredEdge}

theorem isLoop_view (h : e.startNode = e.endNode) (r : Direction) :
    (e.read r).view.isLoop = true := by
  cases r with
  | forward => exact beq_iff_eq.2 h
  | backward => exact beq_iff_eq.2 h.symm

theorem eq_forward_of_traverseFrom? (h : e.startNode = e.endNode) {n : NodeId} {t : Traversal}
    (ht : e.traverseFrom? n = some t) : t = e.forward := by
  rw [traverseFrom?, ← h] at ht
  by_cases hn : e.startNode = n
  · rw [if_pos hn, Option.some.injEq] at ht
    exact ht.symm
  · rw [if_neg hn, if_neg hn] at ht
    cases ht

def speedFor (e : StoredEdge) (v : Vehicle) (d : Direction) : Float :=
  (e.properties.number? v.speed d).getD 0

def verdictFor (e : StoredEdge) (v : Vehicle) (d : Direction) : Verdict :=
  if (e.properties.flag? v.access d).getD false then .ofSpeed (e.speedFor v d) else .closed

theorem speedOn_read (e : StoredEdge) (v : Vehicle) (r : Direction) :
    v.speedOn (e.read r).view .forward = e.speedFor v r := by cases r <;> rfl

theorem verdict_read (e : StoredEdge) (v : Vehicle) (r : Direction) :
    v.verdict (e.read r).view .forward = e.verdictFor v r := by cases r <;> rfl

end StoredEdge

inductive SameTime : Except CostError UInt64 → Except CostError UInt64 → Prop
  | ok (t : UInt64) : SameTime (.ok t) (.ok t)
  | closed (c c' : ClosedDirection) :
      SameTime (.error (.wrongDirection c)) (.error (.wrongDirection c'))
  | badSpeed (e e' : EdgeId) (d d' : Direction) (s s' : Float) :
      SameTime (.error (.invalidSpeed e d s)) (.error (.invalidSpeed e' d' s'))
  | zeroSpeed (e e' : EdgeId) (d d' : Direction) :
      SameTime (.error (.zeroSpeed e d)) (.error (.zeroSpeed e' d'))

def Verdict.ofTime : Except CostError UInt64 → Verdict
  | .ok _ => .passable
  | .error (.wrongDirection _) => .closed
  | .error (.zeroSpeed _ _) => .zeroSpeed
  | .error _ => .badSpeed

theorem Verdict.ofTime_timeBy (v : Vehicle) (e : EdgeView) (d : Direction) (x : Verdict) :
    ofTime (v.timeBy e d x) = x := by cases x <;> rfl

theorem SameTime.ofTime_eq {t u : Except CostError UInt64} (h : SameTime t u) :
    Verdict.ofTime t = Verdict.ofTime u := by cases h <;> rfl

theorem SameTime.eq_of_ok {t u : UInt64} (h : SameTime (.ok t) (.ok u)) : t = u := by
  cases h
  rfl

/-- From whichever end and in whichever direction the edge is read, it costs the same. -/
structure Weighting.OneCost (w : Weighting) (e : StoredEdge) : Prop where
  edgeWeight : ∀ r r' d d', w.edgeWeight (e.read r).view d = w.edgeWeight (e.read r').view d'
  edgeTime : ∀ r r' d d', SameTime (w.edgeTime (e.read r).view d) (w.edgeTime (e.read r').view d')
  canAccess : ∀ r r', w.canAccess (e.read r).view = w.canAccess (e.read r').view

/-- The two stored directions come to the same: one verdict and, if the vehicle can pass, one time
    and for the fastest way one weight. -/
structure PlainWeighting.StoredAlike (w : PlainWeighting) (e : StoredEdge) : Prop where
  verdict : e.verdictFor w.basis.vehicle .forward = e.verdictFor w.basis.vehicle .backward
  time : e.verdictFor w.basis.vehicle .forward = .passable →
    roundToWord (e.distance.milliseconds ⟨e.speedFor w.basis.vehicle .forward⟩) =
      roundToWord (e.distance.milliseconds ⟨e.speedFor w.basis.vehicle .backward⟩)
  weight : e.verdictFor w.basis.vehicle .forward = .passable → w.model = .fastest →
    e.distance.seconds ⟨e.speedFor w.basis.vehicle .forward⟩ =
      e.distance.seconds ⟨e.speedFor w.basis.vehicle .backward⟩

section Loop

variable {w : PlainWeighting} {e : StoredEdge}

theorem PlainWeighting.StoredAlike.pair (h : w.StoredAlike e) (r r' : Direction) :
    e.verdictFor w.basis.vehicle r = e.verdictFor w.basis.vehicle r' ∧
    (e.verdictFor w.basis.vehicle r = .passable →
      roundToWord (e.distance.milliseconds ⟨e.speedFor w.basis.vehicle r⟩) =
        roundToWord (e.distance.milliseconds ⟨e.speedFor w.basis.vehicle r'⟩)) ∧
    (e.verdictFor w.basis.vehicle r = .passable → w.model = .fastest →
      e.distance.seconds ⟨e.speedFor w.basis.vehicle r⟩ =
        e.distance.seconds ⟨e.speedFor w.basis.vehicle r'⟩) := by
  cases r <;> cases r'
  · exact ⟨rfl, fun _ => rfl, fun _ _ => rfl⟩
  · exact ⟨h.verdict, h.time, h.weight⟩
  · exact ⟨h.verdict.symm, fun hp => (h.time (h.verdict.trans hp)).symm,
      fun hp hm => (h.weight (h.verdict.trans hp) hm).symm⟩
  · exact ⟨rfl, fun _ => rfl, fun _ _ => rfl⟩

theorem edgeWeight_loop (h : e.startNode = e.endNode) (r d : Direction) :
    (Weighting.plain w).edgeWeight (e.read r).view d =
      w.model.weightBy w.basis.vehicle (e.read r).view .forward
        (e.verdictFor w.basis.vehicle r) := by
  rw [Weighting.edgeWeight, CostModel.edgeWeight_eq_weightBy,
    EdgeView.effective_of_isLoop (e.isLoop_view h r), e.verdict_read]

theorem edgeTime_loop (h : e.startNode = e.endNode) (r d : Direction) :
    (Weighting.plain w).edgeTime (e.read r).view d =
      w.basis.vehicle.timeBy (e.read r).view .forward (e.verdictFor w.basis.vehicle r) := by
  rw [Weighting.edgeTime, Vehicle.edgeTime_eq_timeBy,
    EdgeView.effective_of_isLoop (e.isLoop_view h r), e.verdict_read]

theorem PlainWeighting.StoredAlike.weight_eq (h : w.StoredAlike e) (r r' : Direction) :
    w.model.weightBy w.basis.vehicle (e.read r).view .forward (e.verdictFor w.basis.vehicle r) =
      w.model.weightBy w.basis.vehicle (e.read r').view .forward
        (e.verdictFor w.basis.vehicle r') := by
  obtain ⟨hverdict, -, hseconds⟩ := h.pair r r'
  rw [← hverdict]
  cases hx : e.verdictFor w.basis.vehicle r with
  | closed => rfl
  | badSpeed => rfl
  | zeroSpeed => rfl
  | passable =>
    cases hm : w.model with
    | fastest =>
      rw [CostModel.weightBy, CostModel.weightBy, e.speedOn_read, e.speedOn_read]
      exact hseconds hx hm
    | shortest => rfl

theorem PlainWeighting.StoredAlike.sameTime (h : w.StoredAlike e) (r r' : Direction) :
    SameTime (w.basis.vehicle.timeBy (e.read r).view .forward (e.verdictFor w.basis.vehicle r))
      (w.basis.vehicle.timeBy (e.read r').view .forward (e.verdictFor w.basis.vehicle r')) := by
  obtain ⟨hverdict, hwords, -⟩ := h.pair r r'
  rw [← hverdict]
  cases hx : e.verdictFor w.basis.vehicle r with
  | closed => exact .closed _ _
  | badSpeed => exact .badSpeed _ _ _ _ _ _
  | zeroSpeed => exact .zeroSpeed _ _ _ _
  | passable =>
    rw [Vehicle.timeBy, Vehicle.timeBy, e.speedOn_read, e.speedOn_read]
    exact hwords hx ▸ .ok _

theorem PlainWeighting.StoredAlike.oneCost (h : w.StoredAlike e) (hloop : e.startNode = e.endNode) :
    (Weighting.plain w).OneCost e := by
  refine ⟨fun r r' d d' => ?_, fun r r' d d' => ?_, fun r r' => ?_⟩
  · rw [edgeWeight_loop hloop, edgeWeight_loop hloop, h.weight_eq r r']
  · rw [edgeTime_loop hloop, edgeTime_loop hloop]
    exact h.sameTime r r'
  · simp only [Weighting.canAccess, edgeWeight_loop hloop, h.weight_eq r r']

theorem Weighting.OneCost.storedAlike (h : (Weighting.plain w).OneCost e)
    (hloop : e.startNode = e.endNode) : w.StoredAlike e := by
  have htime := h.edgeTime .forward .backward .forward .forward
  have hweight := h.edgeWeight .forward .backward .forward .forward
  rw [edgeTime_loop hloop, edgeTime_loop hloop] at htime
  rw [edgeWeight_loop hloop, edgeWeight_loop hloop] at hweight
  -- the weights alone do not tell a closed edge from one without a speed, but the times do
  have hverdict := htime.ofTime_eq
  rw [Verdict.ofTime_timeBy, Verdict.ofTime_timeBy] at hverdict
  rw [← hverdict] at htime hweight
  refine ⟨hverdict, fun hp => ?_, fun hp hm => ?_⟩
  · rw [hp, Vehicle.timeBy, Vehicle.timeBy, e.speedOn_read, e.speedOn_read] at htime
    exact htime.eq_of_ok
  · rw [hp, hm, CostModel.weightBy, CostModel.weightBy, e.speedOn_read, e.speedOn_read] at hweight
    exact hweight

end Loop

namespace PlainWeighting

/-- A loop has one cost from whichever end it is read, and from its node it is only read as it is
    stored. But the costs from its two ends agree only if the vehicle finds the same in both stored
    directions, with the same time and weight where it can pass. -/
theorem loop_oneCost_iff (w : PlainWeighting) (e : StoredEdge) (h : e.startNode = e.endNode) :
    (∀ r d, (Weighting.plain w).edgeWeight (e.read r).view d =
        (Weighting.plain w).edgeWeight (e.read r).view .forward ∧
      (Weighting.plain w).edgeTime (e.read r).view d =
        (Weighting.plain w).edgeTime (e.read r).view .forward) ∧
    (∀ n t, e.traverseFrom? n = some t → t = e.forward) ∧
    ((Weighting.plain w).OneCost e ↔ w.StoredAlike e) := by
  refine ⟨fun r d => ⟨?_, ?_⟩, fun _ _ => e.eq_forward_of_traverseFrom? h, ?_⟩
  · rw [edgeWeight_loop h, edgeWeight_loop h]
  · rw [edgeTime_loop h, edgeTime_loop h]
  · exact ⟨fun hone => hone.storedAlike h, fun halike => halike.oneCost h⟩

theorem loop_oneCost_iff_of_both_ways :
    let car : Vehicle := ⟨"car", ⟨120⟩, true⟩
    let w : PlainWeighting := ⟨.fastest, ⟨⟨"fastest", "car"⟩, car, .free⟩⟩
    let e : StoredEdge := ⟨7, 3, 3, ⟨500⟩, PropertyMap.empty.writeAll
      [.flag car.access .forward true, .number car.speed .forward 50,
        .flag car.access .backward true, .number car.speed .backward 50]⟩
    e.startNode = e.endNode ∧ w.StoredAlike e ∧ (Weighting.plain w).OneCost e := by
  intro car w e
  have halike : w.StoredAlike e := ⟨rfl, fun _ => rfl, fun _ _ => rfl⟩
  exact ⟨rfl, halike, (loop_oneCost_iff w e rfl).2.2.2 halike⟩

/-- A loop that is open in its stored direction only has a weight and a time when it is read from
    its start, but none when it is read from its end. -/
theorem loop_costs_differ_between_ends :
    let car : Vehicle := ⟨"car", ⟨120⟩, true⟩
    let w : PlainWeighting := ⟨.fastest, ⟨⟨"fastest", "car"⟩, car, .free⟩⟩
    let e : StoredEdge := ⟨7, 3, 3, ⟨500⟩,
      (PropertyMap.empty.setFlag car.access .forward true).setNumber car.speed .forward 50⟩
    PlainWeighting.new .fastest car .free = .ok w ∧ e.startNode = e.endNode ∧
      (Weighting.plain w).edgeWeight e.forward.view .forward = 36 ∧
      (Weighting.plain w).edgeWeight e.backward.view .forward = infiniteWeight ∧
      (Weighting.plain w).edgeTime e.forward.view .forward = .ok 36000 ∧
      (Weighting.plain w).edgeTime e.backward.view .forward =
        .error (.wrongDirection (car.closedDirection e.backward.view .forward)) ∧
      (Weighting.plain w).canAccess e.forward.view = true ∧
      (Weighting.plain w).canAccess e.backward.view = false ∧ ¬ (Weighting.plain w).OneCost e := by
  intro car w e
  have haccess : (Weighting.plain w).canAccess e.forward.view = true := by decide
  have hnone : (Weighting.plain w).canAccess e.backward.view = false := by decide
  refine ⟨PlainWeighting.new_eq_ok_iff.2 ⟨rfl, rfl⟩, rfl, by decide, by decide, by decide, rfl,
    haccess, hnone, fun h => ?_⟩
  have hsame := h.canAccess .forward .backward
  exact absurd (haccess.symm.trans (hsame.trans hnone)) (by decide)

end PlainWeighting

end RoutingCosts
