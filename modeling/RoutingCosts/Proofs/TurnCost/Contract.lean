import RoutingCosts.Profile
import RoutingCosts.Proofs.TurnCost.Charge

set_option autoImplicit false

namespace RoutingCosts

namespace TurnTable

inductive Entry where
  | cost (turn : Turn) (weight : Float)
  | restriction (turn : Turn)

def add (t : TurnTable) : Entry → TurnTable
  | .cost turn weight => (t.putCost turn weight).2
  | .restriction turn => t.addRestriction turn

def build (entries : List Entry) : TurnTable := entries.foldl add .empty

def Sound (t : TurnTable) : Prop := ∀ turn c, t.get? turn = some c → isCharge c.weight = true

theorem sound_empty : Sound .empty := by
  intro turn c h
  rw [Assoc.get?_empty] at h
  cases h

theorem isCharge_restrictedWeight : isCharge restrictedWeight = true := by decide

theorem Sound.insert {t : TurnTable} (ht : Sound t) (turn : Turn) {c : TurnCost}
    (hc : isCharge c.weight = true) : Sound (t.insert turn c) := by
  intro turn' c' h
  rw [Assoc.get?_insert] at h
  split at h
  · rw [Option.some.injEq] at h
    rw [← h]
    exact hc
  · exact ht turn' c' h

theorem Sound.add {t : TurnTable} (ht : Sound t) (entry : Entry) : Sound (t.add entry) := by
  cases entry with
  | cost turn weight =>
    rw [TurnTable.add, putCost]
    by_cases hc : isCharge weight = true
    · rw [if_pos hc]
      exact ht.insert turn hc
    · rw [if_neg hc]
      exact ht
  | restriction turn => exact ht.insert turn isCharge_restrictedWeight

theorem sound_build (entries : List Entry) : Sound (build entries) := by
  have hrun : ∀ t, Sound t → Sound (entries.foldl TurnTable.add t) := by
    induction entries with
    | nil => exact fun _ ht => ht
    | cons entry entries ih => exact fun t ht => ih _ (ht.add entry)
  exact hrun _ sound_empty

theorem Sound.isCharge_weight {t : TurnTable} (ht : Sound t) {uTurn : Option Float}
    (hu : isCharge (uTurn.getD restrictedWeight) = true) (turn : Turn) :
    isCharge (t.weight uTurn turn) = true := by
  have hzero : isCharge 0 = true := by decide
  unfold TurnTable.weight
  split_ifs
  · exact hzero
  · exact hu
  · cases h : t.get? turn with
    | none => exact hzero
    | some c => exact ht turn c h

end TurnTable

namespace TurnCosts

inductive Own : TurnCosts → Prop
  | free : Own .free
  | table {costs : TurnCosts} (entries : List TurnTable.Entry) (uTurn : Option Float)
      (made : ofTable (.build entries) uTurn = .ok costs) : Own costs
  | profile {costs : TurnCosts} (p : Profile) (entries : List TurnTable.Entry)
      (made : p.turnCostsFrom (.build entries) = .ok costs) : Own costs
  | extended {costs : TurnCosts} (own : Own costs) (nodes edges : UInt64) (splits : List EdgeId) :
      Own (.extended costs (splits.foldl QueryGraph.addVirtualEdge (.new nodes edges)))

structure Consistent (costs : TurnCosts) (turn : Turn) : Prop where
  isCharge : isCharge (costs.weight turn).value = true
  time : (costs.time turn).value = turnTime (costs.weight turn).value

theorem consistent_free (turn : Turn) : Consistent .free turn := by
  refine ⟨?_, ?_⟩
  · change RoutingCosts.isCharge 0 = true
    decide
  · exact turnTime_zero.symm

theorem consistent_table {t : TurnTable} (ht : t.Sound) {uTurn : Option Float}
    (hu : RoutingCosts.isCharge (uTurn.getD restrictedWeight) = true) (turn : Turn) :
    Consistent (.table t uTurn) turn := by
  refine ⟨?_, ?_⟩ <;> simp only [weight, TurnCosts.time, Traced.value_pure]
  exact ht.isCharge_weight hu turn

theorem ofTable_eq_ok_iff {t : TurnTable} {uTurn : Option Float} {costs : TurnCosts} :
    ofTable t uTurn = .ok costs ↔
      (∀ w ∈ uTurn, RoutingCosts.isCharge w = true) ∧ costs = .table t uTurn := by
  rw [eq_comm (a := costs)]
  cases uTurn with
  | none => simp [ofTable]
  | some w =>
    by_cases hw : RoutingCosts.isCharge w = true
    · simp [ofTable, hw]
    · simp [ofTable, hw]

theorem consistent_of_ofTable {t : TurnTable} {uTurn : Option Float} {costs : TurnCosts}
    (ht : t.Sound) (h : ofTable t uTurn = .ok costs) (turn : Turn) : Consistent costs turn := by
  obtain ⟨hcharge, rfl⟩ := ofTable_eq_ok_iff.1 h
  have hu : RoutingCosts.isCharge (uTurn.getD restrictedWeight) = true := by
    cases uTurn with
    | none => exact TurnTable.isCharge_restrictedWeight
    | some w => exact hcharge w rfl
  exact consistent_table ht hu turn

theorem consistent_extended {costs : TurnCosts} (h : ∀ turn, Consistent costs turn) (g : QueryGraph)
    (turn : Turn) : Consistent (.extended costs g) turn := by
  cases hr : g.ruling turn with
  | free =>
    have hfree := consistent_free turn
    refine ⟨?_, ?_⟩ <;> simp only [weight, time, hr]
    · exact hfree.isCharge
    · exact hfree.time
  | forbidden =>
    refine ⟨?_, ?_⟩ <;> simp only [weight, time, hr]
    · exact TurnTable.isCharge_restrictedWeight
    · exact turnTime_restrictedWeight.symm
  | base turn' =>
    refine ⟨?_, ?_⟩ <;> simp only [weight, time, hr]
    · exact (h turn').isCharge
    · exact (h turn').time

theorem Own.consistent {costs : TurnCosts} (h : Own costs) (turn : Turn) :
    Consistent costs turn := by
  induction h generalizing turn with
  | free => exact consistent_free turn
  | table entries uTurn made => exact consistent_of_ofTable (TurnTable.sound_build entries) made turn
  | profile p entries made =>
    rw [Profile.turnCostsFrom] at made
    split at made
    · exact consistent_of_ofTable (TurnTable.sound_build entries) made turn
    · cases made
      exact consistent_free turn
  | extended own nodes edges splits ih => exact consistent_extended ih _ turn

theorem own_keeps_contract (costs : TurnCosts) (h : Own costs) (turn : Turn) :
    Contract (costs.weight turn).value (costs.time turn).value := by
  have hturn := h.consistent turn
  rw [hturn.time]
  exact contract_turnTime hturn.isCharge

theorem own_keeps_contract_off_virtual_edge :
    let table := TurnTable.build
      [.cost ⟨1, 2, 3⟩ 15, .cost ⟨1, 2, 4⟩ (-1), .restriction ⟨1, 2, 5⟩]
    let graph := ([1] : List EdgeId).foldl QueryGraph.addVirtualEdge (.new 10 10)
    let costs := TurnCosts.extended (.table table (some 40)) graph
    Own costs ∧ Contract (costs.weight ⟨10, 2, 3⟩).value (costs.time ⟨10, 2, 3⟩).value := by
  intro table graph costs
  have hu : RoutingCosts.isCharge 40 = true := by decide
  have hmade : ofTable table (some 40) = .ok (.table table (some 40)) := by
    simp only [ofTable]
    rw [if_pos hu]
  have hown : Own costs := .extended (.table _ _ hmade) 10 10 [1]
  exact ⟨hown, own_keeps_contract costs hown ⟨10, 2, 3⟩⟩

end TurnCosts

end RoutingCosts
