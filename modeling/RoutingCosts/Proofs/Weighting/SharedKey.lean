import RoutingCosts.Graph.StoredEdge
import RoutingCosts.Profile
import RoutingCosts.Proofs.Number.Packing

/-!
# Weightings that share a key

The key of a weighting tells its cost model and its vehicle, but nothing of its costs of turns. So
two profiles may share a key, and with it the names of prepared files, and still differ in costs.
They agree exactly if they charge the same for turning back and the table makes no difference.
-/

set_option autoImplicit false

namespace RoutingCosts

def PlainWeighting.SameCosts (w x : PlainWeighting) : Prop :=
  ∀ e d adj, Weighting.weight (.plain w) e d adj = Weighting.weight (.plain x) e d adj ∧
    Weighting.time (.plain w) e d adj = Weighting.time (.plain x) e d adj

def TurnTable.IsFree (t : TurnTable) : Prop :=
  ∀ turn c, turn.inEdge ≠ invalidEdge → turn.outEdge ≠ invalidEdge →
    turn.inEdge ≠ turn.outEdge → t.get? turn = some c → c.weight = 0

namespace Profile

variable {p q : Profile} {registry : Registry} {table : TurnTable}

def uTurnCharge (p : Profile) : Float :=
  if p.turnCosts then p.uTurnCosts.getD restrictedWeight else 0

def turnCharge (p : Profile) (table : TurnTable) (turn : Turn) : Float :=
  if p.turnCosts then table.weight p.uTurnCosts turn else 0

def charges (p : Profile) (table : TurnTable) : TurnCosts :=
  if p.turnCosts then .table table p.uTurnCosts else .free

theorem eq_charges_of_turnCostsFrom {costs : TurnCosts}
    (h : p.turnCostsFrom table = .ok costs) : costs = p.charges table := by
  unfold turnCostsFrom at h
  unfold charges
  split at h
  · rename_i hp
    rw [if_pos hp]
    cases hu : p.uTurnCosts with
    | none =>
      rw [hu, TurnCosts.ofTable, Except.ok.injEq] at h
      exact h.symm
    | some u =>
      simp only [hu, TurnCosts.ofTable] at h
      split at h
      · rw [Except.ok.injEq] at h
        exact h.symm
      · cases h
  · rename_i hp
    rw [if_neg hp]
    rw [Except.ok.injEq] at h
    exact h.symm

theorem weight_charges (p : Profile) (table : TurnTable) (turn : Turn) :
    (p.charges table).weight turn = pure (p.turnCharge table turn) := by
  unfold charges turnCharge
  split <;> rfl

theorem time_charges (p : Profile) (table : TurnTable) (turn : Turn) :
    (p.charges table).time turn = pure (turnTime (p.turnCharge table turn)) := by
  unfold charges turnCharge
  split
  · rfl
  · rw [turnTime_zero]
    rfl

theorem exists_of_plainWeighting {w : PlainWeighting}
    (h : p.plainWeighting registry table = .ok w) :
    ∃ model v, CostModel.ofName? p.weighting = some model ∧ registry.vehicle p.vehicle = .ok v ∧
      w = ⟨model, ⟨⟨model.name, v.name⟩, v, p.charges table⟩⟩ := by
  obtain ⟨v, costs, model, hv, hc, hm, hw⟩ := plainWeighting_eq_ok_iff.1 h
  refine ⟨model, v, hm, hv, ?_⟩
  rw [← eq_charges_of_turnCostsFrom hc]
  exact (PlainWeighting.new_eq_ok_iff.1 hw).2

theorem exists_of_shared_key {table' : TurnTable} {w x : PlainWeighting}
    (hp : p.plainWeighting registry table = .ok w) (hq : q.plainWeighting registry table' = .ok x)
    (hk : w.basis.key = x.basis.key) :
    ∃ model v, w = ⟨model, ⟨⟨model.name, v.name⟩, v, p.charges table⟩⟩ ∧
      x = ⟨model, ⟨⟨model.name, v.name⟩, v, q.charges table'⟩⟩ := by
  obtain ⟨model, v, -, hv, rfl⟩ := exists_of_plainWeighting hp
  obtain ⟨model', v', -, hv', rfl⟩ := exists_of_plainWeighting hq
  rw [Key.mk.injEq] at hk
  obtain rfl : model = model' := CostModel.name_injective hk.1
  have hname : p.vehicle = q.vehicle :=
    (Registry.name_of_vehicle hv).symm.trans (hk.2.trans (Registry.name_of_vehicle hv'))
  obtain rfl : v = v' := by
    rw [hname, hv'] at hv
    rw [Except.ok.injEq] at hv
    exact hv.symm
  exact ⟨model, v, rfl, rfl⟩

end Profile

section Probe

/-- A loop without length that is open to a vehicle. Its weight is the negative zero, so what comes
    to it by a turn is the weight of the turn alone. -/
def Vehicle.probe (v : Vehicle) (id : EdgeId) (n : NodeId) : StoredEdge :=
  ⟨id, n, n, ⟨-0.0⟩,
    (PropertyMap.empty.setFlag v.access .forward true).setNumber v.speed .forward 50⟩

theorem edgeWeight_probe (model : CostModel) (v : Vehicle) (id : EdgeId) (n : NodeId) :
    model.edgeWeight v (v.probe id n).forward.view .forward = -0.0 := by
  have hopen : v.mayTravel (v.probe id n).forward.view .forward = true := by
    simp [Vehicle.mayTravel, Vehicle.probe, Traversal.view, Traversal.stored, StoredEdge.forward]
  have hspeed : v.speedOn (v.probe id n).forward.view .forward = 50 := by
    simp [Vehicle.speedOn, Vehicle.probe, Traversal.view, Traversal.stored, StoredEdge.forward]
  have hdirection : (v.probe id n).forward.view.effective .forward = .forward := by
    unfold EdgeView.effective
    split <;> rfl
  have hdistance : (v.probe id n).forward.view.distance = ⟨-0.0⟩ := rfl
  have hseconds : Meters.seconds ⟨-0.0⟩ ⟨50⟩ = -0.0 := by decide
  have hfifty : (!(50 : Float).isFinite || decide ((50 : Float) ≤ 0)) = false := by decide
  simp only [CostModel.edgeWeight, hdirection, hopen, hspeed, hdistance, hseconds, hfifty]
  cases model <;> rfl

theorem add_probe (model : CostModel) (v : Vehicle) (id : EdgeId) (n : NodeId) (x : Float) :
    model.edgeWeight v (v.probe id n).forward.view .forward + x = x := by
  rw [edgeWeight_probe]
  exact add_of_negative_zero rfl x

end Probe

section Agreement

variable {p q : Profile} {table : TurnTable}

theorem turnCharge_of_invalid (p : Profile) (table : TurnTable) {turn : Turn}
    (h : turn.inEdge = invalidEdge ∨ turn.outEdge = invalidEdge) : p.turnCharge table turn = 0 := by
  unfold Profile.turnCharge TurnTable.weight
  rw [if_pos h]
  split <;> rfl

theorem turnCharge_uTurn (p : Profile) (table : TurnTable) {e : EdgeId} (n : NodeId)
    (h : e ≠ invalidEdge) : p.turnCharge table ⟨e, n, e⟩ = p.uTurnCharge := by
  unfold Profile.turnCharge Profile.uTurnCharge TurnTable.weight
  rw [if_neg (not_or.2 ⟨h, h⟩), if_pos rfl]

theorem turnCharge_of_ne (p : Profile) (table : TurnTable) {turn : Turn}
    (hin : turn.inEdge ≠ invalidEdge) (hout : turn.outEdge ≠ invalidEdge)
    (hne : turn.inEdge ≠ turn.outEdge) :
    p.turnCharge table turn =
      if p.turnCosts then (table.get? turn).elim 0 TurnCost.weight else 0 := by
  unfold Profile.turnCharge TurnTable.weight
  rw [if_neg (not_or.2 ⟨hin, hout⟩), if_neg hne]
  cases table.get? turn <;> rfl

/-- Weightings of one cost model and one vehicle agree if they charge the same for every turn, and a
    probe of the turn tells if they do not. -/
theorem sameCosts_iff_turnCharge (model : CostModel) (v : Vehicle) :
    PlainWeighting.SameCosts ⟨model, ⟨⟨model.name, v.name⟩, v, p.charges table⟩⟩
        ⟨model, ⟨⟨model.name, v.name⟩, v, q.charges table⟩⟩ ↔
      ∀ turn, p.turnCharge table turn = q.turnCharge table turn := by
  constructor
  · intro h turn
    by_cases hin : turn.inEdge = invalidEdge
    · rw [turnCharge_of_invalid p table (.inl hin), turnCharge_of_invalid q table (.inl hin)]
    · let e := (v.probe turn.outEdge turn.via).forward.view
      have hturn : e.weightTurn? .forward turn.inEdge = some turn := if_neg hin
      have hw := congrArg Traced.value (h e .forward turn.inEdge).1
      simp only [Weighting.weight, Weighting.weightWith, Weighting.edgeWeight, hturn,
        TurnCosts.chargeWeight, Profile.weight_charges] at hw
      change model.edgeWeight v e .forward + p.turnCharge table turn =
        model.edgeWeight v e .forward + q.turnCharge table turn at hw
      rwa [add_probe, add_probe] at hw
  · intro h e d adj
    constructor
    · simp only [Weighting.weight, Weighting.weightWith, Weighting.edgeWeight]
      cases e.weightTurn? d adj with
      | none => rfl
      | some turn =>
        simp only [TurnCosts.chargeWeight, Profile.weight_charges]
        rw [h turn]
    · simp only [Weighting.time, Weighting.timeWith, Weighting.edgeTime]
      cases v.edgeTime e d with
      | error f => rfl
      | ok t =>
        cases e.timeTurn? d adj with
        | none => rfl
        | some turn =>
          simp only [TurnCosts.chargeTime, Profile.time_charges]
          rw [h turn]

theorem isFree_of_turnCharge (hp : p.turnCosts = true) (hq : q.turnCosts = false)
    (h : ∀ turn, p.turnCharge table turn = q.turnCharge table turn) : table.IsFree := by
  intro turn c hin hout hne hc
  have hturn := h turn
  rw [turnCharge_of_ne p table hin hout hne, turnCharge_of_ne q table hin hout hne, hp, hq, hc]
    at hturn
  exact hturn

theorem turnCharge_of_isFree (hfree : table.IsFree) {turn : Turn}
    (hin : turn.inEdge ≠ invalidEdge) (hout : turn.outEdge ≠ invalidEdge)
    (hne : turn.inEdge ≠ turn.outEdge) : p.turnCharge table turn = 0 := by
  rw [turnCharge_of_ne p table hin hout hne]
  cases hc : table.get? turn with
  | none => split <;> rfl
  | some c =>
    rw [Option.elim_some, hfree turn c hin hout hne hc]
    split <;> rfl

theorem turnCharge_eq_iff :
    (∀ turn, p.turnCharge table turn = q.turnCharge table turn) ↔
      p.uTurnCharge = q.uTurnCharge ∧ (p.turnCosts = q.turnCosts ∨ table.IsFree) := by
  constructor
  · intro h
    refine ⟨?_, ?_⟩
    · have hback := h ⟨0, 0, 0⟩
      rwa [turnCharge_uTurn p table 0 (by decide), turnCharge_uTurn q table 0 (by decide)] at hback
    · cases hp : p.turnCosts <;> cases hq : q.turnCosts
      · exact .inl rfl
      · exact .inr (isFree_of_turnCharge hq hp fun turn => (h turn).symm)
      · exact .inr (isFree_of_turnCharge hp hq h)
      · exact .inl rfl
  · rintro ⟨hback, hsame⟩ ⟨inEdge, via, outEdge⟩
    by_cases hinvalid : inEdge = invalidEdge ∨ outEdge = invalidEdge
    · rw [turnCharge_of_invalid p table hinvalid, turnCharge_of_invalid q table hinvalid]
    · obtain ⟨hin, hout⟩ := not_or.1 hinvalid
      by_cases heq : inEdge = outEdge
      · rw [← heq, turnCharge_uTurn p table via hin, turnCharge_uTurn q table via hin, hback]
      · rcases hsame with hsame | hfree
        · rw [turnCharge_of_ne p table hin hout heq, turnCharge_of_ne q table hin hout heq, hsame]
        · rw [turnCharge_of_isFree hfree hin hout heq, turnCharge_of_isFree hfree hin hout heq]

/-- Two profiles with one key agree on all costs exactly if they charge the same for turning back
    and, unless both have costs of turns or neither has, the table charges nothing. -/
theorem sameCosts_iff_of_shared_key (p q : Profile) (registry : Registry) (table : TurnTable)
    (w x : PlainWeighting) (hp : p.plainWeighting registry table = .ok w)
    (hq : q.plainWeighting registry table = .ok x) (hk : w.basis.key = x.basis.key) :
    w.SameCosts x ↔
      p.uTurnCharge = q.uTurnCharge ∧ (p.turnCosts = q.turnCosts ∨ table.IsFree) := by
  obtain ⟨model, v, rfl, rfl⟩ := Profile.exists_of_shared_key hp hq hk
  rw [sameCosts_iff_turnCharge, turnCharge_eq_iff]

theorem sameCosts_iff_with_and_without_turn_costs :
    let car : Vehicle := ⟨"car", ⟨120⟩, true⟩
    let table : TurnTable := Assoc.empty.insert ⟨1, 2, 3⟩ (.cost 15)
    let p : Profile := ⟨"car", "car", "fastest", true, none⟩
    let q : Profile := ⟨"car_nt", "car", "fastest", false, none⟩
    PlainWeighting.SameCosts ⟨.fastest, ⟨⟨"fastest", "car"⟩, car, .table table none⟩⟩
        ⟨.fastest, ⟨⟨"fastest", "car"⟩, car, .free⟩⟩ ↔
      p.uTurnCharge = q.uTurnCharge ∧ (p.turnCosts = q.turnCosts ∨ table.IsFree) := by
  intro car table p q
  exact sameCosts_iff_of_shared_key p q ⟨[car]⟩ table _ _ rfl rfl rfl

/-- A shared key does not make costs agree: only one of two profiles may have costs of turns. -/
theorem costs_differ_under_shared_key :
    ¬ ∀ (p q : Profile) (registry : Registry) (table : TurnTable) (w x : PlainWeighting),
      p.plainWeighting registry table = .ok w → q.plainWeighting registry table = .ok x →
      w.basis.key = x.basis.key → w.SameCosts x := by
  intro h
  let car : Vehicle := ⟨"car", ⟨120⟩, true⟩
  let table : TurnTable := Assoc.empty.insert ⟨1, 2, 3⟩ (.cost 15)
  let p : Profile := ⟨"car", "car", "fastest", true, none⟩
  let q : Profile := ⟨"car_nt", "car", "fastest", false, none⟩
  have hsame := h p q ⟨[car]⟩ table ⟨.fastest, ⟨⟨"fastest", "car"⟩, car, p.charges table⟩⟩
    ⟨.fastest, ⟨⟨"fastest", "car"⟩, car, q.charges table⟩⟩ rfl rfl rfl
  have hcharge : p.turnCharge table ⟨1, 2, 3⟩ = q.turnCharge table ⟨1, 2, 3⟩ :=
    (sameCosts_iff_turnCharge .fastest car).1 hsame ⟨1, 2, 3⟩
  exact absurd hcharge (by decide)

end Agreement

end RoutingCosts
