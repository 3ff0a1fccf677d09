import RoutingCosts.Proofs.TurnCost.History

set_option autoImplicit false

namespace RoutingCosts

namespace TurnTable

variable {t : TurnTable} {uTurn : Option Float} {turn : Turn} {c : Float}

/-- A turn between different edges is forbidden by its entry, turning back if it has no cost. -/
inductive Forbids (t : TurnTable) (uTurn : Option Float) (turn : Turn) : Prop
  | entry (different : turn.inEdge ≠ turn.outEdge) (restricted : t.get? turn = some .restricted)
  | turnBack (same : turn.inEdge = turn.outEdge) (noCost : uTurn = none)

/-- The cost that was accepted for a turn, in its entry or for turning back. -/
inductive Accepted (t : TurnTable) (uTurn : Option Float) (turn : Turn) (c : Float) : Prop
  | entry (different : turn.inEdge ≠ turn.outEdge) (cost : t.get? turn = some (.cost c))
  | turnBack (same : turn.inEdge = turn.outEdge) (cost : uTurn = some c)

theorem Forbids.weight_eq (h : t.Forbids uTurn turn) (hturn : turn.IsBetweenEdges) :
    t.weight uTurn turn = restrictedWeight := by
  cases h with
  | entry hne hget =>
    rw [weight_of_ne hturn hne, hget]
    rfl
  | turnBack hback hnone => rw [weight_turnBack hturn hback, hnone, Option.getD_none]

theorem Accepted.weight_eq (h : t.Accepted uTurn turn c) (hturn : turn.IsBetweenEdges) :
    t.weight uTurn turn = c := by
  cases h with
  | entry hne hget =>
    rw [weight_of_ne hturn hne, hget]
    rfl
  | turnBack hback hsome => rw [weight_turnBack hturn hback, hsome, Option.getD_some]

theorem forbids_or_accepted_or_free (hturn : turn.IsBetweenEdges) :
    t.Forbids uTurn turn ∨ (∃ c, t.Accepted uTurn turn c) ∨ t.weight uTurn turn = 0 := by
  by_cases hback : turn.inEdge = turn.outEdge
  · cases hu : uTurn with
    | none => exact .inl (.turnBack hback rfl)
    | some c => exact .inr (.inl ⟨c, .turnBack hback rfl⟩)
  · cases hget : t.get? turn with
    | none =>
      rw [weight_of_ne hturn hback, hget]
      exact .inr (.inr rfl)
    | some entry =>
      cases entry with
      | cost c => exact .inr (.inl ⟨c, .entry hback hget⟩)
      | restricted => exact .inl (.entry hback hget)

theorem restricted_le_weight_iff (hturn : turn.IsBetweenEdges) :
    restrictedWeight ≤ t.weight uTurn turn ↔
      t.Forbids uTurn turn ∨ ∃ c, t.Accepted uTurn turn c ∧ restrictedWeight ≤ c := by
  have hself : restrictedWeight ≤ restrictedWeight := by decide
  have hfree : ¬ restrictedWeight ≤ 0 := by decide
  constructor
  · intro hle
    rcases forbids_or_accepted_or_free hturn with h | ⟨c, h⟩ | h
    · exact .inl h
    · exact .inr ⟨c, h, h.weight_eq hturn ▸ hle⟩
    · exact absurd (h ▸ hle) hfree
  · rintro (h | ⟨c, h, hle⟩)
    · rwa [h.weight_eq hturn]
    · rwa [h.weight_eq hturn]

end TurnTable

namespace TurnCosts

/-- Exactly the forbidden turns and those with a cost that reaches the weight of a forbidden turn
    have at least that weight, and exactly these have the time of a forbidden turn. Any smaller cost
    weighs and takes less. -/
theorem counts_as_forbidden_iff (entries : List TurnTable.Entry) (uTurn : Option Float)
    (costs : TurnCosts) (made : ofTable (.build entries) uTurn = .ok costs) (turn : Turn)
    (hturn : turn.IsBetweenEdges) :
    (restrictedWeight ≤ (costs.weight turn).value ↔
      TurnTable.Forbids (.build entries) uTurn turn ∨
        ∃ c, TurnTable.Accepted (.build entries) uTurn turn c ∧ restrictedWeight ≤ c) ∧
    ((costs.time turn).value = restrictedTime ↔
      TurnTable.Forbids (.build entries) uTurn turn ∨
        ∃ c, TurnTable.Accepted (.build entries) uTurn turn c ∧ restrictedWeight ≤ c) ∧
    (TurnTable.Forbids (.build entries) uTurn turn →
      (costs.weight turn).value = restrictedWeight) ∧
    ∀ c, TurnTable.Accepted (.build entries) uTurn turn c → ¬ restrictedWeight ≤ c →
      (costs.weight turn).value = c ∧ c < restrictedWeight ∧
        (costs.time turn).value < restrictedTime := by
  -- the contract ties the time of a turn to its weight, so only the weight needs cases
  have hconsistent := consistent_of_ofTable (TurnTable.sound_build entries) made turn
  have hcontract := contract_turnTime hconsistent.isCharge
  rw [← hconsistent.time] at hcontract
  have hweight : (costs.weight turn).value = TurnTable.weight (.build entries) uTurn turn := by
    obtain ⟨-, rfl⟩ := ofTable_eq_ok_iff.1 made
    rfl
  have hiff : restrictedWeight ≤ TurnTable.weight (.build entries) uTurn turn ↔ _ :=
    TurnTable.restricted_le_weight_iff hturn
  rw [← hweight] at hiff
  refine ⟨hiff, hcontract.forbidden.trans hiff, fun h => hweight.trans (h.weight_eq hturn),
    fun c h hbelow => ?_⟩
  have hc : (costs.weight turn).value = c := hweight.trans (h.weight_eq hturn)
  rw [hc] at hcontract
  have hne : (costs.time turn).value ≠ restrictedTime := mt hcontract.forbidden.1 hbelow
  have hdefined : c.isNaN = false := isNaN_eq_false_of_isFinite hcontract.finite
  exact ⟨hc, (lt_iff_not_le hdefined (by decide)).2 hbelow,
    UInt64.lt_of_le_of_ne hcontract.time_le hne⟩

theorem counts_as_forbidden_iff_near_restricted :
    let a : Turn := ⟨1, 2, 3⟩
    let b : Turn := ⟨1, 2, 4⟩
    let table := TurnTable.build [.cost a 999999999999999, .cost b 1e18, .restriction ⟨1, 2, 5⟩]
    let costs := TurnCosts.table table (some 40)
    ofTable table (some 40) = .ok costs ∧ a.IsBetweenEdges ∧ b.IsBetweenEdges ∧
      (costs.weight a).value < restrictedWeight ∧ (costs.time a).value < restrictedTime ∧
      restrictedWeight ≤ (costs.weight b).value ∧ (costs.time b).value = restrictedTime := by
  intro a b table costs
  have hu : ∀ w ∈ some (40 : Float), RoutingCosts.isCharge w = true := by decide
  have hmade : ofTable table (some 40) = .ok costs := ofTable_eq_ok_iff.2 ⟨hu, rfl⟩
  have ha : a.IsBetweenEdges := by decide
  have hb : b.IsBetweenEdges := by decide
  obtain ⟨-, -, -, hsmaller⟩ := counts_as_forbidden_iff _ _ costs hmade a ha
  obtain ⟨hweight, htime, -, -⟩ := counts_as_forbidden_iff _ _ costs hmade b hb
  have haccepted : TurnTable.Accepted table (some 40) a 999999999999999 :=
    .entry (by decide) rfl
  have hgreat : TurnTable.Accepted table (some 40) b 1e18 := .entry (by decide) rfl
  obtain ⟨hvalue, hlt, hless⟩ := hsmaller _ haccepted (by decide)
  have hreached : ∃ c, TurnTable.Accepted table (some 40) b c ∧ restrictedWeight ≤ c :=
    ⟨_, hgreat, by decide⟩
  exact ⟨hmade, ha, hb, hvalue ▸ hlt, hless, hweight.2 (.inr hreached), htime.2 (.inr hreached)⟩

/-- Neither the weight nor the time of a forbidden turn tells that a turn is forbidden: a cost of
    that size was accepted for one turn, and another of that size for turning back. -/
theorem costs_count_as_forbidden :
    let table := TurnTable.build [.cost ⟨1, 2, 3⟩ 1e15]
    let costs := TurnCosts.table table (some 1e15)
    ofTable table (some 1e15) = .ok costs ∧
      ∀ turn ∈ ([⟨1, 2, 3⟩, ⟨1, 2, 1⟩] : List Turn), turn.IsBetweenEdges ∧
        restrictedWeight ≤ (costs.weight turn).value ∧ (costs.time turn).value = restrictedTime ∧
        ¬ TurnTable.Forbids table (some 1e15) turn := by
  intro table costs
  have hu : ∀ w ∈ some (1e15 : Float), RoutingCosts.isCharge w = true := by decide
  have hentry : table.get? ⟨1, 2, 3⟩ = some (.cost 1e15) := rfl
  refine ⟨ofTable_eq_ok_iff.2 ⟨hu, rfl⟩, fun turn hturn => ?_⟩
  rcases List.mem_pair.1 hturn with rfl | rfl
  · refine ⟨by decide, by decide, by decide, fun h => ?_⟩
    cases h with
    | entry _ hget => exact absurd (hentry.symm.trans hget) (by decide)
    | turnBack hback _ => exact absurd hback (by decide)
  · refine ⟨by decide, by decide, by decide, fun h => ?_⟩
    cases h with
    | entry hne _ => exact hne rfl
    | turnBack _ hnone => cases hnone

end TurnCosts

end RoutingCosts
