import Mathlib.Algebra.BigOperators.Group.List.Basic
import Mathlib.Data.List.Forall2
import RoutingCosts.Graph.StoredEdge
import RoutingCosts.Proofs.Number.Saturation

/-!
# Costs along a path

A path can be read from its start: then every edge is read forward from its near end, next to the
edge before it. Or it can be read from its end: then every edge is read backward from its far end,
next to the edge after it. Both readings find the same costs, and the turn that one of them charges
on the way onto an edge is charged by the other on the way off the edge before.
-/

set_option autoImplicit false

namespace RoutingCosts

def StoredEdge.Joins (e : StoredEdge) (a b : NodeId) : Prop :=
  (e.startNode = a ∧ e.endNode = b) ∨ (e.startNode = b ∧ e.endNode = a)

/-- A way from one node to another along valid edges; it may pass nodes and edges again. -/
inductive Path : NodeId → NodeId → Type
  | nil (a : NodeId) : Path a a
  | cons {a b c : NodeId} (e : StoredEdge) (joins : e.Joins a b) (valid : e.id ≠ invalidEdge)
      (rest : Path b c) : Path a c

/-- How a search comes upon an edge, next to the edge before it going forward or the one after it
    going backward. -/
structure Visit where
  traversal : Traversal
  direction : Direction
  adjacent : EdgeId

namespace Visit

def weightTurn? (v : Visit) : Option Turn := v.traversal.view.weightTurn? v.direction v.adjacent

def timeTurn? (v : Visit) : Option Turn := v.traversal.view.timeTurn? v.direction v.adjacent

def edgeWeight (w : Weighting) (v : Visit) : Float := w.edgeWeight v.traversal.view v.direction

def edgeTime? (w : Weighting) (v : Visit) : Option UInt64 :=
  (w.edgeTime v.traversal.view v.direction).toOption

def weight (w : Weighting) (v : Visit) : Traced Float :=
  w.weight v.traversal.view v.direction v.adjacent

def time (w : Weighting) (v : Visit) : Traced (Except CostError UInt64) :=
  w.time v.traversal.view v.direction v.adjacent

theorem weightTurn?_eq_timeTurn? : weightTurn? = timeTurn? := rfl

/-- The turn whose time is charged: none at an edge that has no time itself. -/
def timeCharge? (w : Weighting) (v : Visit) : Option Turn :=
  (v.edgeTime? w).bind fun _ => v.timeTurn?

def stored (v : Visit) : Direction := v.traversal.stored (v.traversal.view.effective v.direction)

structure SameEdge (v u : Visit) : Prop where
  edge : v.traversal.edge = u.traversal.edge
  stored : v.stored = u.stored

theorem SameEdge.mayTravel {v u : Visit} (h : SameEdge v u) (c : Vehicle) :
    c.mayTravel v.traversal.view (v.traversal.view.effective v.direction) =
      c.mayTravel u.traversal.view (u.traversal.view.effective u.direction) := by
  change (v.traversal.edge.properties.flag? c.access v.stored).getD false =
    (u.traversal.edge.properties.flag? c.access u.stored).getD false
  rw [h.edge, h.stored]

theorem SameEdge.speedOn {v u : Visit} (h : SameEdge v u) (c : Vehicle) :
    c.speedOn v.traversal.view (v.traversal.view.effective v.direction) =
      c.speedOn u.traversal.view (u.traversal.view.effective u.direction) := by
  change (v.traversal.edge.properties.number? c.speed v.stored).getD 0 =
    (u.traversal.edge.properties.number? c.speed u.stored).getD 0
  rw [h.edge, h.stored]

theorem SameEdge.distance {v u : Visit} (h : SameEdge v u) :
    v.traversal.view.distance = u.traversal.view.distance := by
  change v.traversal.edge.distance = u.traversal.edge.distance
  rw [h.edge]

theorem SameEdge.edgeWeight {v u : Visit} (h : SameEdge v u) (w : Weighting) :
    v.edgeWeight w = u.edgeWeight w := by
  induction w with
  | plain w =>
    simp only [Visit.edgeWeight, Weighting.edgeWeight, CostModel.edgeWeight]
    rw [h.mayTravel, h.speedOn, h.distance]
  | query inner costs ih => exact ih

theorem SameEdge.edgeTime? {v u : Visit} (h : SameEdge v u) (w : Weighting) :
    v.edgeTime? w = u.edgeTime? w := by
  induction w with
  | plain w =>
    simp only [Visit.edgeTime?, Weighting.edgeTime, Vehicle.edgeTime]
    rw [h.mayTravel, h.speedOn, h.distance]
    split
    · rfl
    · split
      · rfl
      · split <;> rfl
  | query inner costs ih => exact ih

theorem isOk_time (w : Weighting) (v : Visit) :
    (v.time w).value.isOk = (v.edgeTime? w).isSome := by
  rw [time, w.time_eq_charge, edgeTime?, TurnCosts.chargeTime.eq_def]
  cases w.edgeTime v.traversal.view v.direction with
  | error e => rfl
  | ok t => cases v.traversal.view.timeTurn? v.direction v.adjacent <;> rfl

theorem asked_weight (w : Weighting) (v : Visit) :
    (v.weight w).asked = v.weightTurn?.elim [] fun turn => (w.turnCosts.weight turn).asked := by
  rw [weight, w.weight_eq_charge, weightTurn?, TurnCosts.chargeWeight.eq_def]
  cases v.traversal.view.weightTurn? v.direction v.adjacent with
  | none => rfl
  | some turn => simp

theorem asked_time (w : Weighting) (v : Visit) :
    (v.time w).asked = (v.timeCharge? w).elim [] fun turn => (w.turnCosts.time turn).asked := by
  rw [time, w.time_eq_charge, timeCharge?, edgeTime?, timeTurn?, TurnCosts.chargeTime.eq_def]
  cases w.edgeTime v.traversal.view v.direction with
  | error e => rfl
  | ok t =>
    cases v.traversal.view.timeTurn? v.direction v.adjacent with
    | none => rfl
    | some turn => simp [Except.toOption]

def edgeMillis (w : Weighting) (v : Visit) : Nat := (v.edgeTime? w).elim 0 UInt64.toNat

def turnMillis (w : Weighting) (v : Visit) : Nat :=
  v.timeTurn?.elim 0 fun turn => (w.turnCosts.time turn).value.toNat

theorem eq_of_time_eq_ok {w : Weighting} {v : Visit} {t : UInt64} (h : (v.time w).value = .ok t) :
    t = .ofNatClamp (v.edgeMillis w + v.turnMillis w) := by
  rw [time, w.time_eq_charge, TurnCosts.chargeTime.eq_def] at h
  rw [edgeMillis, turnMillis, edgeTime?, timeTurn?]
  cases he : w.edgeTime v.traversal.view v.direction with
  | error e => simp [he] at h
  | ok s =>
    cases ht : v.traversal.view.timeTurn? v.direction v.adjacent with
    | none =>
      have hs : s = t := by simpa [he, ht] using h
      simp [hs, Except.toOption]
    | some turn =>
      have hs : saturatingAdd s (w.turnCosts.time turn).value = t := by simpa [he, ht] using h
      rw [← hs, saturatingAdd_eq]
      rfl

end Visit

/-- A joining edge can be read from both ends, and forward from the one end is backward from the
    other. -/
theorem StoredEdge.Joins.exists_traversals {e : StoredEdge} {a b : NodeId} (h : e.Joins a b) :
    ∃ t u, e.traverseFrom? a = some t ∧ e.traverseFrom? b = some u ∧ t.edge = e ∧ u.edge = e ∧
      ∀ previous next, Visit.SameEdge ⟨t, .forward, previous⟩ ⟨u, .backward, next⟩ := by
  by_cases hab : a = b
  · subst hab
    have hs : e.startNode = a ∧ e.endNode = a := by
      rcases h with h | h
      · exact h
      · exact h
    refine ⟨e.forward, e.forward, by simp [traverseFrom?, hs], by simp [traverseFrom?, hs], rfl, rfl,
      fun _ _ => ⟨rfl, ?_⟩⟩
    -- the direction of a loop does not matter
    simp [Visit.stored, EdgeView.effective, EdgeView.isLoop, Traversal.view, Traversal.base,
      Traversal.adjacent, forward, hs]
  · rcases h with ⟨hs, he⟩ | ⟨hs, he⟩
    · refine ⟨e.forward, e.backward, by simp [traverseFrom?, hs], by simp [traverseFrom?, hs, he, hab],
        rfl, rfl, fun _ _ => ⟨rfl, ?_⟩⟩
      simp [Visit.stored, EdgeView.effective, EdgeView.isLoop, Traversal.view, Traversal.base,
        Traversal.adjacent, Traversal.stored, forward, backward, Direction.opposite, hs, he, hab,
        Ne.symm hab]
    · refine ⟨e.backward, e.forward, by simp [traverseFrom?, hs, he, Ne.symm hab],
        by simp [traverseFrom?, hs], rfl, rfl, fun _ _ => ⟨rfl, ?_⟩⟩
      simp [Visit.stored, EdgeView.effective, EdgeView.isLoop, Traversal.view, Traversal.base,
        Traversal.adjacent, Traversal.stored, forward, backward, Direction.opposite, hs, he, hab,
        Ne.symm hab]

namespace Path

def firstEdge {a c : NodeId} : Path a c → EdgeId
  | .nil _ => invalidEdge
  | .cons e _ _ _ => e.id

/-- The visits of a search that comes from the edge `previous`. -/
def forwardVisits? {a c : NodeId} (previous : EdgeId) : Path a c → Option (List Visit)
  | .nil _ => some []
  | .cons e _ _ rest => do
    let t ← e.traverseFrom? a
    let visits ← rest.forwardVisits? e.id
    return ⟨t, .forward, previous⟩ :: visits

def backwardVisits? {a c : NodeId} : Path a c → Option (List Visit)
  | .nil _ => some []
  | .cons (b := b) e _ _ rest => do
    let t ← e.traverseFrom? b
    let visits ← rest.backwardVisits?
    return ⟨t, .backward, rest.firstEdge⟩ :: visits

def turnOnto? {a c : NodeId} (previous : EdgeId) : Path a c → Option Turn
  | .nil _ => none
  | .cons e _ _ _ => if previous = invalidEdge then none else some ⟨previous, a, e.id⟩

def turns {a c : NodeId} : Path a c → List Turn
  | .nil _ => []
  | .cons e _ _ rest => (rest.turnOnto? e.id).toList ++ rest.turns

theorem exists_visits {a c : NodeId} (p : Path a c) (previous : EdgeId) :
    ∃ fwd bwd, p.forwardVisits? previous = some fwd ∧ p.backwardVisits? = some bwd ∧
      List.Forall₂ Visit.SameEdge fwd bwd ∧ bwd.filterMap Visit.timeTurn? = p.turns ∧
      p.turnOnto? previous :: bwd.map Visit.timeTurn? = fwd.map Visit.timeTurn? ++ [none] := by
  induction p generalizing previous with
  | nil a => exact ⟨[], [], rfl, rfl, .nil, rfl, rfl⟩
  | @cons a b c e joins valid rest ih =>
    obtain ⟨t, u, ht, hu, hte, hue, hsame⟩ := joins.exists_traversals
    obtain ⟨fwd, bwd, hf, hb, hedges, hcharged, hturns⟩ := ih e.id
    have hin : (Visit.mk t .forward previous).timeTurn? =
        (cons e joins valid rest).turnOnto? previous := by
      change (if previous = invalidEdge then none else some (Turn.mk previous t.base t.edge.id)) = _
      rw [e.base_of_traverseFrom? ht, hte]
      rfl
    have hout : (Visit.mk u .backward rest.firstEdge).timeTurn? = rest.turnOnto? e.id := by
      change (if rest.firstEdge = invalidEdge then none
        else some (Turn.mk u.edge.id u.base rest.firstEdge)) = _
      rw [e.base_of_traverseFrom? hu, hue]
      cases rest with
      | nil b => rfl
      | cons e' joins' valid' rest' => simp [firstEdge, turnOnto?, valid, valid']
    refine ⟨⟨t, .forward, previous⟩ :: fwd, ⟨u, .backward, rest.firstEdge⟩ :: bwd, ?_, ?_,
      .cons (hsame _ _) hedges, ?_, ?_⟩
    · simp [forwardVisits?, ht, hf]
    · simp [backwardVisits?, hu, hb]
    · rw [List.filterMap_cons, hout, hcharged, turns]
      cases rest.turnOnto? e.id <;> rfl
    · rw [List.map_cons, List.map_cons, hin, hout, hturns, List.cons_append]

end Path

/-- What the two readings of a path have in common. A turn is charged at one edge going backward
    and at the next one going forward, so the lists of turns are one place apart. -/
structure SameCosts (w : Weighting) (turns : List Turn) (fwd bwd : List Visit) : Prop where
  edgeWeights : fwd.map (Visit.edgeWeight w) = bwd.map (Visit.edgeWeight w)
  weightTurns : none :: bwd.map Visit.weightTurn? = fwd.map Visit.weightTurn? ++ [none]
  timeTurns : none :: bwd.map Visit.timeTurn? = fwd.map Visit.timeTurn? ++ [none]
  weightsCharged :
    fwd.filterMap Visit.weightTurn? = turns ∧ bwd.filterMap Visit.weightTurn? = turns
  weightQuestions :
    fwd.flatMap (fun v => (v.weight w).asked) = bwd.flatMap fun v => (v.weight w).asked
  failures :
    fwd.map (fun v => (v.time w).value.isOk) = bwd.map fun v => (v.time w).value.isOk
  timesCharged : (∀ v ∈ fwd, (v.time w).value.isOk = true) →
    fwd.filterMap (Visit.timeCharge? w) = turns ∧ bwd.filterMap (Visit.timeCharge? w) = turns
  timeQuestions : (∀ v ∈ fwd, (v.time w).value.isOk = true) →
    fwd.flatMap (fun v => (v.time w).asked) = bwd.flatMap fun v => (v.time w).asked
  totals : ∀ ts us, fwd.map (fun v => (v.time w).value) = ts.map .ok →
    bwd.map (fun v => (v.time w).value) = us.map .ok →
    saturatingSum ts = saturatingSum us ∧ saturatingSum ts = saturatingSum us.reverse

section Lists

variable {w : Weighting} {fwd bwd : List Visit}

theorem map_eq_of_sameEdge {α : Type} {f : Visit → α} (hf : ∀ {v u}, v.SameEdge u → f v = f u)
    (h : List.Forall₂ Visit.SameEdge fwd bwd) : fwd.map f = bwd.map f := by
  induction h with
  | nil => rfl
  | cons hvu _ ih => rw [List.map_cons, List.map_cons, hf hvu, ih]

theorem filterMap_eq_of_shift {f : Visit → Option Turn}
    (h : none :: bwd.map f = fwd.map f ++ [none]) : fwd.filterMap f = bwd.filterMap f := by
  have hk := congrArg (List.filterMap id) h
  simpa [List.filterMap_map] using hk.symm

theorem sum_turnMillis_eq_of_shift
    (h : none :: bwd.map Visit.timeTurn? = fwd.map Visit.timeTurn? ++ [none]) :
    (fwd.map (Visit.turnMillis w)).sum = (bwd.map (Visit.turnMillis w)).sum := by
  let millis (turn? : Option Turn) : Nat :=
    turn?.elim 0 fun turn => (w.turnCosts.time turn).value.toNat
  have hk := congrArg (fun turns => (turns.map millis).sum) h
  have hm : millis ∘ Visit.timeTurn? = Visit.turnMillis w := rfl
  simpa [hm, millis] using hk.symm

theorem flatMap_elim {α β γ : Type} (f : α → Option β) (g : β → List γ) (xs : List α) :
    xs.flatMap (fun x => (f x).elim [] g) = (xs.filterMap f).flatMap g := by
  induction xs with
  | nil => rfl
  | cons x xs ih => cases hx : f x <;> simp [hx, ih]

theorem filterMap_timeCharge? (h : ∀ v ∈ fwd, (v.time w).value.isOk = true) :
    fwd.filterMap (Visit.timeCharge? w) = fwd.filterMap Visit.timeTurn? := by
  apply List.filterMap_congr
  intro v hv
  have hs : (v.edgeTime? w).isSome = true := by rw [← v.isOk_time w]; exact h v hv
  obtain ⟨t, ht⟩ := Option.isSome_iff_exists.1 hs
  simp [Visit.timeCharge?, ht]

theorem eq_map_of_times {ts : List UInt64}
    (h : fwd.map (fun v => (v.time w).value) = ts.map .ok) :
    ts = fwd.map fun v => .ofNatClamp (v.edgeMillis w + v.turnMillis w) := by
  induction fwd generalizing ts with
  | nil => simpa [eq_comm] using h
  | cons v fwd ih =>
    cases ts with
    | nil => simp at h
    | cons t ts =>
      rw [List.map_cons, List.map_cons, List.cons.injEq] at h
      rw [List.map_cons, ← ih h.2, ← Visit.eq_of_time_eq_ok h.1]

theorem saturatingSum_times {ts : List UInt64}
    (h : fwd.map (fun v => (v.time w).value) = ts.map .ok) :
    saturatingSum ts =
      .ofNatClamp ((fwd.map (Visit.edgeMillis w)).sum + (fwd.map (Visit.turnMillis w)).sum) := by
  rw [eq_map_of_times h, saturatingSum_map_ofNatClamp, List.sum_map_add]

end Lists

/-- Every path can be read from both ends, under any weighting, and the readings agree. -/
theorem Path.readings_agree (w : Weighting) {a c : NodeId} (p : Path a c) :
    ∃ fwd bwd, p.forwardVisits? invalidEdge = some fwd ∧ p.backwardVisits? = some bwd ∧
      SameCosts w p.turns fwd bwd := by
  obtain ⟨fwd, bwd, hf, hb, hedges, hbwd, hturns⟩ := p.exists_visits invalidEdge
  have hfirst : p.turnOnto? invalidEdge = none := by cases p <;> simp [turnOnto?]
  rw [hfirst] at hturns
  have hok : fwd.map (fun v => (v.time w).value.isOk) = bwd.map fun v => (v.time w).value.isOk :=
    map_eq_of_sameEdge (fun h => by rw [Visit.isOk_time, Visit.isOk_time, h.edgeTime? w]) hedges
  have hall (h : ∀ v ∈ fwd, (v.time w).value.isOk = true) :
      ∀ v ∈ bwd, (v.time w).value.isOk = true := by
    have hk : ∀ b ∈ fwd.map (fun v => (v.time w).value.isOk), b = true := by simpa using h
    rw [hok] at hk
    simpa using hk
  have hfwd : fwd.filterMap Visit.timeTurn? = p.turns := (filterMap_eq_of_shift hturns).trans hbwd
  have hcharged (h : ∀ v ∈ fwd, (v.time w).value.isOk = true) :
      fwd.filterMap (Visit.timeCharge? w) = p.turns ∧
        bwd.filterMap (Visit.timeCharge? w) = p.turns := by
    rw [filterMap_timeCharge? h, filterMap_timeCharge? (hall h)]
    exact ⟨hfwd, hbwd⟩
  have hmillis : fwd.map (Visit.edgeMillis w) = bwd.map (Visit.edgeMillis w) :=
    map_eq_of_sameEdge (fun h => by rw [Visit.edgeMillis, Visit.edgeMillis, h.edgeTime? w]) hedges
  refine ⟨fwd, bwd, hf, hb, ?_⟩
  exact {
    edgeWeights := map_eq_of_sameEdge (fun h => h.edgeWeight w) hedges
    weightTurns := hturns
    timeTurns := hturns
    weightsCharged := ⟨hfwd, hbwd⟩
    weightQuestions := by
      simp only [Visit.asked_weight, flatMap_elim]
      rw [Visit.weightTurn?_eq_timeTurn?, hfwd, hbwd]
    failures := hok
    timesCharged := hcharged
    timeQuestions := fun h => by
      simp only [Visit.asked_time, flatMap_elim]
      rw [(hcharged h).1, (hcharged h).2]
    totals := fun ts us hts hus => by
      have hsum : saturatingSum ts = saturatingSum us := by
        rw [saturatingSum_times hts, saturatingSum_times hus, hmillis,
          sum_turnMillis_eq_of_shift hturns]
      exact ⟨hsum, hsum.trans (saturatingSum_perm us.reverse_perm.symm)⟩ }

/-- Without a time for every edge the turns whose time is charged may differ: here the first of two
    edges is closed, and only going forward is the turn charged at the second. -/
theorem Path.timesCharged_differ_at_closed_edge :
    ¬ ∀ (w : Weighting) (a c : NodeId) (p : Path a c) (fwd bwd : List Visit),
      p.forwardVisits? invalidEdge = some fwd → p.backwardVisits? = some bwd →
      fwd.flatMap (fun v => (v.time w).asked) = bwd.flatMap fun v => (v.time w).asked := by
  intro h
  let car : Vehicle := ⟨"car", ⟨120⟩, true⟩
  let w : Weighting :=
    .plain ⟨.shortest, ⟨⟨"shortest", "car"⟩, car, .outside ⟨0, fun _ => 1, fun _ => 1000⟩⟩⟩
  let closed : StoredEdge := ⟨1, 0, 1, ⟨100⟩, .empty⟩
  let road : PropertyMap :=
    (PropertyMap.empty.setFlag car.access .forward true).setNumber car.speed .forward 50
  let p : Path 0 2 :=
    .cons closed (.inl ⟨rfl, rfl⟩) (by decide) <|
      .cons ⟨2, 1, 2, ⟨100⟩, road⟩ (.inl ⟨rfl, rfl⟩) (by decide) (.nil 2)
  exact absurd (h w 0 2 p _ _ rfl rfl) (by decide)

end RoutingCosts
