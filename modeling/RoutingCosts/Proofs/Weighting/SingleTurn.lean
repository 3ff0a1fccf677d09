import RoutingCosts.Proofs.Number.Saturation
import RoutingCosts.Proofs.Weighting.Loop
import RoutingCosts.Proofs.Weighting.OwnProperties

set_option autoImplicit false

namespace RoutingCosts

structure EdgeView.IsPlain (e : EdgeView) : Prop where
  first : e.firstCovered = e.id
  last : e.lastCovered = e.id

theorem EdgeView.IsPlain.weightTurn?_eq {e : EdgeView} (h : e.IsPlain) (d : Direction)
    (adj : EdgeId) : e.weightTurn? d adj = e.timeTurn? d adj := by
  rw [weightTurn?, timeTurn?, h.first, h.last]

theorem Traversal.isPlain (t : Traversal) : t.view.IsPlain := ⟨rfl, rfl⟩

namespace Weighting

/-- What the weight of an edge next to `adj` is, and what it asks of the source. The turn lies
    between edges of the uncontracted graph. -/
inductive ChargesWeight (w : Weighting) (s : Source) (e : EdgeView) :
    Direction → EdgeId → Traced Float → Prop
  | alone (d : Direction) : ChargesWeight w s e d invalidEdge ⟨w.edgeWeight e d, []⟩
  | onto {adj : EdgeId} (h : adj ≠ invalidEdge) :
      ChargesWeight w s e .forward adj
        ⟨w.edgeWeight e .forward + s.weight ⟨adj, e.base, e.firstCovered⟩,
          [⟨s.id, .weight, ⟨adj, e.base, e.firstCovered⟩⟩]⟩
  | off {adj : EdgeId} (h : adj ≠ invalidEdge) :
      ChargesWeight w s e .backward adj
        ⟨w.edgeWeight e .backward + s.weight ⟨e.lastCovered, e.base, adj⟩,
          [⟨s.id, .weight, ⟨e.lastCovered, e.base, adj⟩⟩]⟩

/-- What the time of an edge next to `adj` is, and what it asks of the source. The turn names the
    edge itself, and the sum stops at the greatest word. -/
inductive ChargesTime (w : Weighting) (s : Source) (e : EdgeView) :
    Direction → EdgeId → Traced (Except CostError UInt64) → Prop
  | failed {d : Direction} {f : CostError} (h : w.edgeTime e d = .error f) (adj : EdgeId) :
      ChargesTime w s e d adj ⟨.error f, []⟩
  | alone {d : Direction} {t : UInt64} (h : w.edgeTime e d = .ok t) :
      ChargesTime w s e d invalidEdge ⟨.ok t, []⟩
  | onto {t sum : UInt64} {adj : EdgeId} (h : w.edgeTime e .forward = .ok t)
      (next : adj ≠ invalidEdge)
      (total : sum.toNat = min (t.toNat + (s.time ⟨adj, e.base, e.id⟩).toNat) (2 ^ 64 - 1)) :
      ChargesTime w s e .forward adj ⟨.ok sum, [⟨s.id, .time, ⟨adj, e.base, e.id⟩⟩]⟩
  | off {t sum : UInt64} {adj : EdgeId} (h : w.edgeTime e .backward = .ok t)
      (next : adj ≠ invalidEdge)
      (total : sum.toNat = min (t.toNat + (s.time ⟨e.id, e.base, adj⟩).toNat) (2 ^ 64 - 1)) :
      ChargesTime w s e .backward adj ⟨.ok sum, [⟨s.id, .time, ⟨e.id, e.base, adj⟩⟩]⟩

section Charges

variable {w : Weighting} {s : Source}

theorem chargesWeight (hs : w.turnCosts = .outside s) (e : EdgeView) (d : Direction)
    (adj : EdgeId) : w.ChargesWeight s e d adj (w.weight e d adj) := by
  by_cases hadj : adj = invalidEdge
  · rw [hadj, w.weight_invalidEdge]
    exact .alone d
  · rw [w.weight_eq_charge, hs]
    cases d with
    | forward =>
      have hturn : e.weightTurn? .forward adj = some ⟨adj, e.base, e.firstCovered⟩ := if_neg hadj
      rw [hturn]
      exact .onto hadj
    | backward =>
      have hturn : e.weightTurn? .backward adj = some ⟨e.lastCovered, e.base, adj⟩ := if_neg hadj
      rw [hturn]
      exact .off hadj

theorem chargesTime (hs : w.turnCosts = .outside s) (e : EdgeView) (d : Direction)
    (adj : EdgeId) : w.ChargesTime s e d adj (w.time e d adj) := by
  rw [w.time_eq_charge, hs]
  cases ht : w.edgeTime e d with
  | error f => exact .failed ht adj
  | ok t =>
    by_cases hadj : adj = invalidEdge
    · have hnone : e.timeTurn? d adj = none := if_pos hadj
      rw [hnone, hadj]
      exact .alone ht
    · cases d with
      | forward =>
        have hturn : e.timeTurn? .forward adj = some ⟨adj, e.base, e.id⟩ := if_neg hadj
        rw [hturn]
        exact .onto ht hadj (toNat_ofNatClamp _)
      | backward =>
        have hturn : e.timeTurn? .backward adj = some ⟨e.id, e.base, adj⟩ := if_neg hadj
        rw [hturn]
        exact .off ht hadj (toNat_ofNatClamp _)

theorem edgeWeight_eq_of_isLoop {e : EdgeView} (h : e.isLoop = true) (d d' : Direction) :
    w.edgeWeight e d = w.edgeWeight e d' := by
  induction w with
  | plain w => simp only [edgeWeight, CostModel.edgeWeight, EdgeView.effective_of_isLoop h]
  | query inner costs ih => exact ih

theorem edgeTime_eq_of_isLoop {e : EdgeView} (h : e.isLoop = true) (d d' : Direction) :
    w.edgeTime e d = w.edgeTime e d' := by
  simp only [edgeTime_eq, Vehicle.edgeTime, EdgeView.effective_of_isLoop h]

theorem turns_asked_of_isPlain (hs : w.turnCosts = .outside s) {e : EdgeView} (he : e.IsPlain)
    {d : Direction} {t : UInt64} (ht : w.edgeTime e d = .ok t) (adj : EdgeId) :
    (w.weight e d adj).asked.map Question.turn = (w.time e d adj).asked.map Question.turn := by
  rw [w.weight_eq_charge, w.time_eq_charge, hs, ht, he.weightTurn?_eq]
  cases e.timeTurn? d adj <;> rfl

end Charges

/-- Weight and time of every edge charge one turn of the source at most. -/
structure ChargesSingleTurn (w : Weighting) (s : Source) : Prop where
  weight : ∀ e d adj, w.ChargesWeight s e d adj (w.weight e d adj)
  time : ∀ e d adj, w.ChargesTime s e d adj (w.time e d adj)
  loop : ∀ e : EdgeView, e.isLoop = true → ∀ d d',
    w.edgeWeight e d = w.edgeWeight e d' ∧ w.edgeTime e d = w.edgeTime e d'
  plain : ∀ e : EdgeView, e.IsPlain → ∀ d t, w.edgeTime e d = .ok t → ∀ adj,
    (w.weight e d adj).asked.map Question.turn = (w.time e d adj).asked.map Question.turn
  traversal : ∀ t : Traversal, t.view.IsPlain ∧ (HierarchyEdge.edge t).view.IsPlain

/-- Whatever a weighting is made of, if its costs of turns come from an outside source, this source
    is asked once about the one turn that an edge is charged with, and never without need. -/
theorem charges_single_turn (w : Weighting) (s : Source) (hs : w.turnCosts = .outside s) :
    w.ChargesSingleTurn s where
  weight := chargesWeight hs
  time := chargesTime hs
  loop _ h d d' := ⟨edgeWeight_eq_of_isLoop h d d', edgeTime_eq_of_isLoop h d d'⟩
  plain _ he _ _ ht adj := turns_asked_of_isPlain hs he ht adj
  traversal t := ⟨t.isPlain, t.isPlain⟩

theorem charges_single_turn_at_loop :
    let car : Vehicle := ⟨"car", ⟨120⟩, true⟩
    let s : Source := ⟨4, fun _ => 12, fun _ => 0xFFFFFFFFFFFFFFFF⟩
    let w : Weighting := .query (.plain ⟨.fastest, ⟨⟨"fastest", "car"⟩, car, .free⟩⟩) (.outside s)
    let loop : EdgeView :=
      ⟨20, 3, 3, 7, 8, ⟨1000⟩, fun _ d => some (d = .forward), fun _ _ => some 60, none⟩
    w.turnCosts = .outside s ∧ w.ChargesSingleTurn s ∧
      w.weight loop .backward 5 = ⟨72, [⟨4, .weight, ⟨8, 3, 5⟩⟩]⟩ ∧
      w.time loop .backward 5 = ⟨.ok 0xFFFFFFFFFFFFFFFF, [⟨4, .time, ⟨20, 3, 5⟩⟩]⟩ := by
  intro car s w loop
  have hs : w.turnCosts = .outside s := rfl
  exact ⟨hs, charges_single_turn w s hs, by decide +kernel, by decide +kernel⟩

end Weighting

end RoutingCosts
