import RoutingCosts.Graph.StoredEdge
import RoutingCosts.Proofs.Weighting.Constructible

set_option autoImplicit false

namespace RoutingCosts

/-- Neither undefined nor negative. A length may be infinite. -/
structure Meters.IsLength (d : Meters) : Prop where
  defined : d.value.isNaN = false
  nonneg : ¬ d.value < 0

structure IsWeight (x : Float) : Prop where
  defined : x.isNaN = false
  nonneg : 0 ≤ x
  le_infinite : x ≤ infiniteWeight

theorem isAmount_infiniteWeight : IsAmount infiniteWeight ⊤ := .infinite rfl

theorem IsAmount.isWeight {x : Float} {a : WithTop ℚ} (h : IsAmount x a) : IsWeight x where
  defined := h.isNaN_eq_false
  nonneg := h.nonneg
  le_infinite := (h.le_iff isAmount_infiniteWeight).2 le_top

theorem Meters.IsLength.exists_isAmount {d : Meters} (h : d.IsLength) :
    ∃ a, IsAmount d.value a :=
  RoutingCosts.exists_isAmount h.defined h.nonneg

section Seconds

variable {d : Meters} {a : WithTop ℚ}

theorem Kmh.IsUsable.exists_exactValue? {v : Kmh} (h : v.IsUsable) :
    ∃ k, exactValue? v.value = some k ∧ 0 < k := by
  obtain ⟨hfinite, hpos⟩ := Kmh.isUsable_iff.1 h
  exact exists_exactValue?_of_pos hfinite hpos

theorem exists_isAmount_scaled (hd : IsAmount d.value a) : ∃ b, IsAmount (d.value * 3.6) b := by
  obtain ⟨k, hk, hpos⟩ := exists_exactValue?_of_pos (x := 3.6) (by decide) (by decide)
  exact ⟨_, hd.mul hk hpos⟩

theorem exists_isAmount_seconds (hd : IsAmount d.value a) {v : Kmh} (hv : v.IsUsable) :
    ∃ b, IsAmount (d.seconds v) b := by
  obtain ⟨_, hscaled⟩ := exists_isAmount_scaled hd
  obtain ⟨k, hk, hpos⟩ := hv.exists_exactValue?
  exact ⟨_, hscaled.div hk hpos⟩

theorem seconds_le_seconds (hd : IsAmount d.value a) {v w : Kmh} (hv : v.IsUsable)
    (hw : w.IsUsable) (h : ¬ w.value < v.value) : d.seconds w ≤ d.seconds v := by
  obtain ⟨_, hscaled⟩ := exists_isAmount_scaled hd
  obtain ⟨b, hb, hbpos⟩ := hv.exists_exactValue?
  obtain ⟨c, hc, hcpos⟩ := hw.exists_exactValue?
  have hle : ¬ ((c : ℚ) : WithTop ℚ) < (b : ℚ) := by
    rwa [← (IsAmount.finite hc hcpos.le).lt_iff (.finite hb hbpos.le)]
  exact hscaled.div_le_div hscaled hb hc hbpos le_rfl (not_lt.1 (mt WithTop.coe_lt_coe.2 hle))

end Seconds

namespace CostModel

variable {model : CostModel} {v : Vehicle} {e : EdgeView} {d : Direction} {x : Float}
  {a : WithTop ℚ}

/-- What an edge may weigh: infinity, or what the cost model makes of its length. -/
inductive Weighs (v : Vehicle) (e : EdgeView) (d : Direction) : CostModel → Float → Prop
  | blocked (model : CostModel) : Weighs v e d model infiniteWeight
  | shortest : Weighs v e d .shortest e.distance.value
  | fastest (access : v.mayTravel e (e.effective d) = true)
      (usable : Kmh.IsUsable ⟨v.speedOn e (e.effective d)⟩) :
      Weighs v e d .fastest (e.distance.seconds ⟨v.speedOn e (e.effective d)⟩)

theorem weighs_edgeWeight (model : CostModel) (v : Vehicle) (e : EdgeView) (d : Direction) :
    Weighs v e d model (model.edgeWeight v e d) := by
  unfold edgeWeight
  simp only
  split
  · exact .blocked model
  · rename_i haccess
    rw [Bool.not_eq_true', Bool.not_eq_false] at haccess
    cases model with
    | shortest => exact .shortest
    | fastest =>
      simp only
      split
      · exact .blocked .fastest
      · rename_i hspeed
        rw [Bool.or_eq_true, not_or, Bool.not_eq_true', Bool.not_eq_false,
          decide_eq_true_eq] at hspeed
        exact .fastest haccess (Kmh.isUsable_iff.2 hspeed)

theorem Weighs.exists_isAmount (h : Weighs v e d model x) (he : IsAmount e.distance.value a) :
    ∃ b, IsAmount x b := by
  cases h with
  | blocked => exact ⟨⊤, isAmount_infiniteWeight⟩
  | shortest => exact ⟨a, he⟩
  | fastest access usable => exact exists_isAmount_seconds he usable

theorem exists_isAmount_minWeight (model : CostModel) (hv : v.maxSpeed.IsUsable)
    {distance : Meters} (h : IsAmount distance.value a) :
    ∃ b, IsAmount (model.minWeight v distance) b := by
  cases model with
  | fastest => exact exists_isAmount_seconds h hv
  | shortest => exact ⟨a, h⟩

theorem Weighs.minWeight_le (h : Weighs v e d model x) (he : IsAmount e.distance.value a)
    (hv : v.maxSpeed.IsUsable)
    (hspeed : v.mayTravel e (e.effective d) = true →
      ¬ v.maxSpeed.value < v.speedOn e (e.effective d)) :
    model.minWeight v e.distance ≤ x := by
  obtain ⟨b, hmin⟩ := exists_isAmount_minWeight model hv he
  cases h with
  | blocked => exact (hmin.le_iff isAmount_infiniteWeight).2 le_top
  | shortest => exact (he.le_iff he).2 le_rfl
  | fastest access usable => exact seconds_le_seconds he usable hv (hspeed access)

end CostModel

theorem TurnCosts.Own.exists_isAmount_weight {costs : TurnCosts} (h : costs.Own) (turn : Turn) :
    ∃ b, IsAmount (costs.weight turn).value b := by
  obtain ⟨b, hb, hnonneg⟩ := exists_exactValue?_of_isCharge (h.consistent turn).isCharge
  exact ⟨b, .finite hb hnonneg⟩

namespace Weighting

theorem exists_model (w : Weighting) : ∃ model : CostModel,
    (∀ e d, w.edgeWeight e d = model.edgeWeight w.vehicle e d) ∧
      ∀ distance, w.minWeight distance = model.minWeight w.vehicle distance := by
  induction w with
  | plain w => exact ⟨w.model, fun _ _ => rfl, fun _ => rfl⟩
  | query inner costs ih => exact ih

theorem Constructible.isUsable_maxSpeed {w : Weighting} (h : w.Constructible) : w.vehicle.maxSpeed.IsUsable :=
  Registry.isMaxSpeed_iff.1 h.isMaxSpeed

theorem value_weight_eq (w : Weighting) (e : EdgeView) (d : Direction) (adj : EdgeId) :
    (w.weight e d adj).value =
      match e.weightTurn? d adj with
      | none => w.edgeWeight e d
      | some turn => w.edgeWeight e d + (w.turnCosts.weight turn).value := by
  rw [weight_eq_charge]
  cases e.weightTurn? d adj <;> rfl

/-- Nothing that a weighting tells of a length is undefined or below zero. -/
theorem isWeight_of_isLength (w : Weighting) (hw : w.Constructible) (hc : w.turnCosts.Own)
    (e : EdgeView) (he : e.distance.IsLength) (d : Direction) (adj : EdgeId) (distance : Meters)
    (hd : distance.IsLength) :
    IsWeight (w.edgeWeight e d) ∧ IsWeight (w.weight e d adj).value ∧
      IsWeight (w.minWeight distance) := by
  obtain ⟨a, ha⟩ := he.exists_isAmount
  obtain ⟨_, hdistance⟩ := hd.exists_isAmount
  obtain ⟨model, hedge, hmin⟩ := w.exists_model
  have hweighs := model.weighs_edgeWeight w.vehicle e d
  obtain ⟨b, hb⟩ := hweighs.exists_isAmount ha
  obtain ⟨_, hleast⟩ := model.exists_isAmount_minWeight hw.isUsable_maxSpeed hdistance
  rw [value_weight_eq, hedge, hmin]
  refine ⟨hb.isWeight, ?_, hleast.isWeight⟩
  cases e.weightTurn? d adj with
  | none => exact hb.isWeight
  | some turn =>
    obtain ⟨_, hturn⟩ := hc.exists_isAmount_weight turn
    exact (hb.add hturn).isWeight

theorem isWeight_of_endless_edge :
    let car : Vehicle := ⟨"car", ⟨120⟩, true⟩
    let costs := TurnCosts.extended .free (([1] : List EdgeId).foldl .addVirtualEdge (.new 10 10))
    let w := Weighting.query (.plain ⟨.fastest, ⟨⟨"fastest", "car"⟩, car, .free⟩⟩) costs
    let e : StoredEdge := ⟨10, 12, 4, ⟨infiniteWeight⟩,
      (PropertyMap.empty.setFlag car.access .forward true).setNumber car.speed .forward
        (.ofBits 1)⟩
    w.Constructible ∧ w.turnCosts.Own ∧ e.distance.IsLength ∧
      IsWeight (w.edgeWeight e.forward.view .forward) ∧
        IsWeight (w.weight e.forward.view .forward 10).value ∧
          IsWeight (w.minWeight ⟨.ofBits 0x7FEFFFFFFFFFFFFF⟩) := by
  intro car costs w e
  have hcar : car.Constructible := (Vehicle.constructible_iff rfl).2 (by decide)
  have hw : w.Constructible :=
    .query (.plain hcar (PlainWeighting.new_eq_ok_iff.2 ⟨rfl, rfl⟩)) costs
  have hc : w.turnCosts.Own := .extended .free 10 10 [1]
  have he : e.distance.IsLength := ⟨by decide, by decide⟩
  exact ⟨hw, hc, he, isWeight_of_isLength w hw hc e.forward.view he .forward 10
    ⟨.ofBits 0x7FEFFFFFFFFFFFFF⟩ ⟨by decide, by decide⟩⟩

/-- The least weight of a distance is a lower bound of what any edge of that length weighs, alone or
    with a turn, if no speed is above the maximal speed of the vehicle. -/
theorem minWeight_le_edgeWeight_le_weight (w : Weighting) (hw : w.Constructible)
    (hc : w.turnCosts.Own) (e : EdgeView) (he : e.distance.IsLength) (d : Direction) (adj : EdgeId)
    (hspeed : w.vehicle.mayTravel e (e.effective d) = true →
      ¬ w.vehicle.maxSpeed.value < w.vehicle.speedOn e (e.effective d)) :
    w.minWeight e.distance ≤ w.edgeWeight e d ∧ w.edgeWeight e d ≤ (w.weight e d adj).value := by
  obtain ⟨a, ha⟩ := he.exists_isAmount
  obtain ⟨model, hedge, hmin⟩ := w.exists_model
  have hweighs := model.weighs_edgeWeight w.vehicle e d
  obtain ⟨b, hb⟩ := hweighs.exists_isAmount ha
  rw [value_weight_eq, hedge, hmin]
  refine ⟨hweighs.minWeight_le ha hw.isUsable_maxSpeed hspeed, ?_⟩
  cases e.weightTurn? d adj with
  | none => exact (hb.le_iff hb).2 le_rfl
  | some turn =>
    obtain ⟨_, hturn⟩ := hc.exists_isAmount_weight turn
    exact hb.le_add hturn

theorem minWeight_le_weight_of_uTurn :
    let car : Vehicle := ⟨"car", ⟨120⟩, true⟩
    let w := Weighting.plain ⟨.fastest, ⟨⟨"fastest", "car"⟩, car, .table .empty none⟩⟩
    let e : StoredEdge := ⟨3, 1, 2, ⟨1000.1⟩,
      (PropertyMap.empty.setFlag car.access .backward true).setNumber car.speed .backward 119.9⟩
    w.Constructible ∧ w.turnCosts.Own ∧ e.distance.IsLength ∧
      w.minWeight ⟨1000.1⟩ ≤ w.edgeWeight e.backward.view .forward ∧
        w.edgeWeight e.backward.view .forward ≤ (w.weight e.backward.view .forward 3).value := by
  intro car w e
  have hcar : car.Constructible := (Vehicle.constructible_iff rfl).2 (by decide)
  have hw : w.Constructible := .plain hcar (PlainWeighting.new_eq_ok_iff.2 ⟨rfl, rfl⟩)
  have hc : w.turnCosts.Own := .table [] none rfl
  have he : e.distance.IsLength := ⟨by decide, by decide⟩
  exact ⟨hw, hc, he, minWeight_le_edgeWeight_le_weight w hw hc e.backward.view he .forward 3
    (fun _ => by decide)⟩

end Weighting

end RoutingCosts
