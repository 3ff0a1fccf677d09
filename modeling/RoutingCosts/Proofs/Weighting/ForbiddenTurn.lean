import RoutingCosts.Proofs.Weighting.Bounds

set_option autoImplicit false

namespace RoutingCosts

namespace Traversal

/-- The turn from the edge `adj` onto the traversal or, backward, from the traversal onto `adj`. -/
def turn (t : Traversal) (adj : EdgeId) : Direction → Turn
  | .forward => ⟨adj, t.base, t.edge.id⟩
  | .backward => ⟨t.edge.id, t.base, adj⟩

variable {adj : EdgeId}

theorem weightTurn?_view (t : Traversal) (d : Direction) (h : adj ≠ invalidEdge) :
    t.view.weightTurn? d adj = some (t.turn adj d) := by
  cases d <;> exact if_neg h

theorem timeTurn?_view (t : Traversal) (d : Direction) (h : adj ≠ invalidEdge) :
    t.view.timeTurn? d adj = some (t.turn adj d) := by
  cases d <;> exact if_neg h

end Traversal

section Sums

/-- The weight of a forbidden turn is far below the last place of the greatest double, and it is not
    lost in the sum with a small one. -/
theorem add_restrictedWeight {x : Float} (hfinite : x.isFinite = true) (hnonneg : 0 ≤ x) :
    (x + restrictedWeight).isFinite = true ∧ restrictedWeight ≤ x + restrictedWeight := by
  have hdefined := isNaN_eq_false_of_isFinite hfinite
  have hneg : ¬ x < 0 := by
    rw [lt_iff_not_le hdefined isAmount_zero.isNaN_eq_false, not_not]
    exact hnonneg
  obtain ⟨a, hx, ha⟩ := exists_exactValue?_of_nonneg hfinite hneg
  have hr := exactValue?_restrictedWeight
  have hrpos : (0 : ℚ) ≤ 10 ^ 15 := by positivity
  have hsmall : (10 ^ 15 : ℚ) < 2 ^ (971 : ℤ) / 2 := by
    calc
      (10 ^ 15 : ℚ) < 2 ^ (52 : ℤ) / 2 := by norm_num
      _ ≤ 2 ^ (971 : ℤ) / 2 :=
        div_le_div_of_nonneg_right (zpow_le_zpow_right₀ one_le_two (by norm_num)) two_pos.le
  constructor
  · exact isFinite_add hx hr ha hrpos hsmall
  · exact IsAmount.le_add_left (.finite hx ha) (.finite hr hrpos)

theorem TurnCosts.Own.time_of_restricted {costs : TurnCosts} (h : costs.Own) {turn : Turn}
    (hturn : (costs.weight turn).value = restrictedWeight) :
    (costs.time turn).value = restrictedTime := by
  rw [(h.consistent turn).time, hturn, turnTime_restrictedWeight]

end Sums

namespace Weighting

variable {w : Weighting} {e : EdgeView} {d : Direction} {adj : EdgeId} {turn : Turn}

theorem value_weight_of_turn (h : e.weightTurn? d adj = some turn) :
    (w.weight e d adj).value = w.edgeWeight e d + (w.turnCosts.weight turn).value := by
  rw [value_weight_eq, h]

theorem value_time_of_turn {ms : UInt64} (ht : w.edgeTime e d = .ok ms)
    (h : e.timeTurn? d adj = some turn) :
    (w.time e d adj).value = .ok (saturatingAdd ms (w.turnCosts.time turn).value) := by
  rw [time_eq_charge, ht, h]
  rfl

/-- Whatever the edge costs alone, its costs next to `adj` can be compared with those of any edge,
    and show that a turn is forbidden. -/
structure StaysComparable (w : Weighting) (t : Traversal) (d : Direction) (adj : EdgeId) :
    Prop where
  weight : (w.edgeWeight t.view d).isFinite = true → 0 ≤ w.edgeWeight t.view d →
    (w.weight t.view d adj).value.isFinite = true ∧
      restrictedWeight ≤ (w.weight t.view d adj).value
  time : ∀ ms, w.edgeTime t.view d = .ok ms →
    ∃ total, (w.time t.view d adj).value = .ok total ∧ restrictedTime ≤ total ∧ ms ≤ total

theorem forbidden_turn_stays_comparable (w : Weighting) (hc : w.turnCosts.Own) (t : Traversal)
    (d : Direction) (adj : EdgeId) (hadj : adj ≠ invalidEdge)
    (hturn : (w.turnCosts.weight (t.turn adj d)).value = restrictedWeight) :
    w.StaysComparable t d adj where
  weight hfinite hnonneg := by
    rw [value_weight_of_turn (t.weightTurn?_view d hadj), hturn]
    exact add_restrictedWeight hfinite hnonneg
  time ms hms := by
    refine ⟨_, value_time_of_turn hms (t.timeTurn?_view d hadj), ?_, le_saturatingAdd_left _ _⟩
    rw [hc.time_of_restricted hturn]
    exact le_saturatingAdd_right _ _

theorem forbidden_turn_stays_comparable_at_greatest :
    let car : Vehicle := ⟨"car", ⟨120⟩, true⟩
    let table := TurnTable.build [.restriction ⟨1, 2, 3⟩]
    let inner := TurnCosts.extended (.table table (some 40)) (QueryGraph.new 10 10)
    let costs :=
      TurnCosts.extended inner (([3] : List EdgeId).foldl .addVirtualEdge (.new 20 20))
    let w := Weighting.query (.plain ⟨.shortest, ⟨⟨"shortest", "car"⟩, car, .free⟩⟩) costs
    let e : StoredEdge := ⟨20, 2, 4, ⟨.ofBits 0x7FEFFFFFFFFFFFFF⟩,
      (PropertyMap.empty.setFlag car.access .forward true).setNumber car.speed .forward (.ofBits 1)⟩
    w.turnCosts.Own ∧ (w.turnCosts.weight (e.forward.turn 1 .forward)).value = restrictedWeight ∧
      w.StaysComparable e.forward .forward 1 ∧
      w.edgeWeight e.forward.view .forward = .ofBits 0x7FEFFFFFFFFFFFFF ∧
      (w.weight e.forward.view .forward 1).value.isFinite = true ∧
      w.edgeTime e.forward.view .forward = .ok 0xFFFFFFFFFFFFFFFF ∧
      (w.time e.forward.view .forward 1).value = .ok 0xFFFFFFFFFFFFFFFF := by
  intro car table inner costs w e
  have hmade : TurnCosts.ofTable table (some 40) = .ok (.table table (some 40)) :=
    TurnCosts.ofTable_eq_ok_iff.2 ⟨by decide, rfl⟩
  have hc : w.turnCosts.Own :=
    .extended (.extended (.table _ _ hmade) 10 10 []) 20 20 [3]
  have hturn : (w.turnCosts.weight (e.forward.turn 1 .forward)).value = restrictedWeight := by
    decide
  have h := forbidden_turn_stays_comparable w hc e.forward .forward 1 (by decide) hturn
  have hweight : w.edgeWeight e.forward.view .forward = .ofBits 0x7FEFFFFFFFFFFFFF := by decide
  have htime : w.edgeTime e.forward.view .forward = .ok 0xFFFFFFFFFFFFFFFF := by decide
  obtain ⟨hfinite, -⟩ := h.weight (by rw [hweight]; decide) (by rw [hweight]; decide)
  obtain ⟨total, htotal, -, hle⟩ := h.time _ htime
  have hgreatest : total = 0xFFFFFFFFFFFFFFFF := by
    rw [← UInt64.toNat_inj]
    rw [UInt64.le_iff_toNat_le] at hle
    have hmax := total.toNat_lt
    have hword : (0xFFFFFFFFFFFFFFFF : UInt64).toNat = 2 ^ 64 - 1 := rfl
    omega
  rw [hgreatest] at htotal
  exact ⟨hc, hturn, h, hweight, hfinite, htime, htotal⟩

end Weighting

end RoutingCosts
