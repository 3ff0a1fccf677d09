import RoutingCosts.Proofs.Registry
import RoutingCosts.Proofs.TurnCost.History

set_option autoImplicit false

namespace RoutingCosts

theorem exists_first_cons_iff {α : Type} {P Q : α → Prop} {x : α} {xs : List α} :
    (∃ before y after, x :: xs = before ++ y :: after ∧ (∀ z ∈ before, P z) ∧ Q y) ↔
      Q x ∨ P x ∧ ∃ before y after, xs = before ++ y :: after ∧ (∀ z ∈ before, P z) ∧ Q y := by
  constructor
  · rintro ⟨before, y, after, hxs, hbefore, hy⟩
    obtain ⟨rfl, hhead⟩ | ⟨before, rfl, rfl⟩ := List.cons_eq_append_iff.1 hxs
    · exact .inl ((List.cons.inj hhead).1 ▸ hy)
    · obtain ⟨hx, hbefore⟩ := List.forall_mem_cons.1 hbefore
      exact .inr ⟨hx, before, y, after, rfl, hbefore, hy⟩
  · rintro (hx | ⟨hx, before, y, after, rfl, hbefore, hy⟩)
    · exact ⟨[], x, xs, rfl, nofun, hx⟩
    · exact ⟨x :: before, y, after, rfl, List.forall_mem_cons.2 ⟨hx, hbefore⟩, hy⟩

theorem mapM_eq_error_iff {α β ε : Type} {f : α → Except ε β} {xs : List α} {e : ε} :
    xs.mapM f = .error e ↔
      ∃ before x after, xs = before ++ x :: after ∧ (∀ y ∈ before, ∃ b, f y = .ok b) ∧
        f x = .error e := by
  induction xs with
  | nil => simp [pure, Except.pure]
  | cons x xs ih =>
    rw [List.mapM_cons, exists_first_cons_iff, ← ih]
    cases f x with
    | error e' => simp [bind, Except.bind]
    | ok b => cases xs.mapM f <;> simp [bind, Except.bind, pure, Except.pure]

theorem CostModel.ofName?_name (model : CostModel) : ofName? model.name = some model := by
  cases model <;> decide

theorem TurnCosts.ofTable_of_isUnfit {table : TurnTable} {u : Float} (h : IsUnfit u) :
    ofTable table (some u) = .error (.invalidUTurnCost u) := by
  rw [ofTable, if_neg (mt isCharge_iff.1 (not_not.2 h))]

theorem TurnCosts.ofTable_of_fit {table : TurnTable} {uTurn : Option Float}
    (h : ∀ u ∈ uTurn, ¬ IsUnfit u) : ofTable table uTurn = .ok (.table table uTurn) :=
  ofTable_eq_ok_iff.2 ⟨fun u hu => isCharge_iff.2 (h u hu), rfl⟩

namespace Profile

/-- What comes of a profile: the first thing that is wrong with it, or the weighting that is made
    directly with the vehicle and the costs of turns that it names. -/
inductive Gives (p : Profile) (r : Registry) (table : TurnTable) :
    Except CostError PlainWeighting → Prop
  | unknownVehicle (unknown : ∀ v ∈ r.vehicles, v.name ≠ p.vehicle) :
      Gives p r table (.error (.unknownVehicle p.vehicle))
  | invalidUTurnCost {v : Vehicle} {u : Float} (known : v ∈ r.vehicles) (name : v.name = p.vehicle)
      (turnCosts : p.turnCosts = true) (uTurn : p.uTurnCosts = some u) (unfit : IsUnfit u) :
      Gives p r table (.error (.invalidUTurnCost u))
  | unknownWeighting {v : Vehicle} (known : v ∈ r.vehicles) (name : v.name = p.vehicle)
      (fit : p.turnCosts = true → ∀ u ∈ p.uTurnCosts, ¬ IsUnfit u)
      (notFastest : p.weighting ≠ "fastest") (notShortest : p.weighting ≠ "shortest") :
      Gives p r table (.error (.unknownWeighting p.weighting))
  | withTurnCosts {v : Vehicle} {model : CostModel} {costs : TurnCosts} {w : PlainWeighting}
      (known : v ∈ r.vehicles) (name : v.name = p.vehicle) (turnCosts : p.turnCosts = true)
      (fromTable : TurnCosts.ofTable table p.uTurnCosts = .ok costs)
      (weighting : p.weighting = model.name) (direct : PlainWeighting.new model v costs = .ok w) :
      Gives p r table (.ok w)
  | withoutTurnCosts {v : Vehicle} {model : CostModel} {w : PlainWeighting}
      (known : v ∈ r.vehicles) (name : v.name = p.vehicle) (turnCosts : p.turnCosts = false)
      (weighting : p.weighting = model.name) (direct : PlainWeighting.new model v .free = .ok w) :
      Gives p r table (.ok w)

section Outcome

variable {p : Profile} {vs : List Vehicle} {r : Registry} {table : TurnTable}

theorem plainWeighting_of_vehicle {v : Vehicle} (hv : r.vehicle p.vehicle = .ok v) :
    p.plainWeighting r table =
      (p.turnCostsFrom table).bind fun costs =>
        match CostModel.ofName? p.weighting with
        | some model => PlainWeighting.new model v costs
        | none => .error (.unknownWeighting p.weighting) := by
  rw [plainWeighting, hv]
  rfl

theorem turnCostsFrom_of_fit (h : p.turnCosts = true → ∀ u ∈ p.uTurnCosts, ¬ IsUnfit u) :
    ∃ costs, p.turnCostsFrom table = .ok costs := by
  rw [turnCostsFrom]
  split
  · rename_i hp
    exact ⟨_, TurnCosts.ofTable_of_fit (h hp)⟩
  · exact ⟨_, rfl⟩

theorem Gives.plainWeighting_eq (made : Registry.ofVehicles vs = .ok r)
    {outcome : Except CostError PlainWeighting} (h : p.Gives r table outcome) :
    p.plainWeighting r table = outcome := by
  have hvehicle {v : Vehicle} (known : v ∈ r.vehicles) (name : v.name = p.vehicle) :
      r.vehicle p.vehicle = .ok v := (Registry.vehicle_eq_ok_iff made).2 ⟨known, name⟩
  cases h with
  | unknownVehicle unknown =>
    rw [plainWeighting, Registry.vehicle_of_unknown unknown]
    rfl
  | invalidUTurnCost known name turnCosts uTurn unfit =>
    rw [plainWeighting_of_vehicle (hvehicle known name), turnCostsFrom, if_pos turnCosts, uTurn,
      TurnCosts.ofTable_of_isUnfit unfit]
    rfl
  | unknownWeighting known name fit notFastest notShortest =>
    obtain ⟨costs, hcosts⟩ := @turnCostsFrom_of_fit p table fit
    rw [plainWeighting_of_vehicle (hvehicle known name), hcosts, CostModel.ofName?,
      if_neg notFastest, if_neg notShortest]
    rfl
  | @withTurnCosts v model costs w known name turnCosts fromTable weighting direct =>
    refine plainWeighting_eq_ok_iff.2 ⟨v, costs, model, hvehicle known name, ?_, ?_, direct⟩
    · rw [turnCostsFrom, if_pos turnCosts, fromTable]
    · rw [weighting, model.ofName?_name]
  | @withoutTurnCosts v model w known name turnCosts weighting direct =>
    refine plainWeighting_eq_ok_iff.2 ⟨v, .free, model, hvehicle known name, ?_, ?_, direct⟩
    · rw [turnCostsFrom, turnCosts]
      rfl
    · rw [weighting, model.ofName?_name]

theorem exists_gives (p : Profile) (made : Registry.ofVehicles vs = .ok r) (table : TurnTable) :
    ∃ outcome, p.Gives r table outcome := by
  by_cases hunknown : ∀ v ∈ r.vehicles, v.name ≠ p.vehicle
  · exact ⟨_, .unknownVehicle hunknown⟩
  obtain ⟨v, known, name⟩ : ∃ v ∈ r.vehicles, v.name = p.vehicle := by simpa using hunknown
  have hnew (model : CostModel) (costs : TurnCosts) :
      ∃ w, PlainWeighting.new model v costs = .ok w :=
    ⟨_, PlainWeighting.new_eq_ok_iff.2 ⟨Registry.registered_of_mem made known, rfl⟩⟩
  by_cases hfit : p.turnCosts = true → ∀ u ∈ p.uTurnCosts, ¬ IsUnfit u
  · by_cases hname : ∃ model : CostModel, p.weighting = model.name
    · obtain ⟨model, hmodel⟩ := hname
      cases hturns : p.turnCosts with
      | true =>
        obtain ⟨w, hw⟩ := hnew model (.table table p.uTurnCosts)
        have hcosts := @TurnCosts.ofTable_of_fit table _ (hfit hturns)
        exact ⟨_, .withTurnCosts known name hturns hcosts hmodel hw⟩
      | false =>
        obtain ⟨w, hw⟩ := hnew model .free
        exact ⟨_, .withoutTurnCosts known name hturns hmodel hw⟩
    · exact ⟨_, .unknownWeighting known name hfit (fun h => hname ⟨.fastest, h⟩)
        fun h => hname ⟨.shortest, h⟩⟩
  · obtain ⟨hturns, u, hu, hunfit⟩ : p.turnCosts = true ∧ ∃ u ∈ p.uTurnCosts, IsUnfit u := by
      simpa using hfit
    exact ⟨_, .invalidUTurnCost known name hturns hu hunfit⟩

theorem plainWeighting_eq_iff_gives (made : Registry.ofVehicles vs = .ok r)
    {outcome : Except CostError PlainWeighting} :
    p.plainWeighting r table = outcome ↔ p.Gives r table outcome := by
  refine ⟨fun h => ?_, fun h => h.plainWeighting_eq made⟩
  obtain ⟨outcome', hgives⟩ := p.exists_gives made table
  rw [← h, hgives.plainWeighting_eq made]
  exact hgives

theorem plainWeighting_of_not_turnCosts (h : p.turnCosts = false) (table' : TurnTable)
    (u : Option Float) :
    { p with uTurnCosts := u }.plainWeighting r table' = p.plainWeighting r table := by
  have hcosts (q : Profile) (hq : q.turnCosts = false) (t : TurnTable) :
      q.turnCostsFrom t = .ok .free := by
    rw [turnCostsFrom, hq]
    rfl
  rw [plainWeighting, plainWeighting, hcosts p h, hcosts { p with uTurnCosts := u } h]

end Outcome

structure BuildsAll (ps : List Profile) (r : Registry) (table : TurnTable) : Prop where
  succeeds : (∃ ws, plainWeightings ps r table = .ok ws) ↔
    ∀ p ∈ ps, ∃ w, p.plainWeighting r table = .ok w
  inOrder : ∀ ws, plainWeightings ps r table = .ok ws →
    ws.length = ps.length ∧ ps.map (·.plainWeighting r table) = ws.map .ok
  firstFailure : ∀ f, plainWeightings ps r table = .error f ↔
    ∃ before p after, ps = before ++ p :: after ∧
      (∀ q ∈ before, ∃ w, q.plainWeighting r table = .ok w) ∧ p.plainWeighting r table = .error f

theorem buildsAll (ps : List Profile) (r : Registry) (table : TurnTable) :
    BuildsAll ps r table where
  succeeds := by
    constructor
    · rintro ⟨ws, hws⟩ p hp
      have hmem : p.plainWeighting r table ∈ ws.map .ok := by
        rw [← plainWeightings_eq_ok_iff.1 hws]
        exact List.mem_map_of_mem hp
      obtain ⟨w, -, hw⟩ := List.mem_map.1 hmem
      exact ⟨w, hw.symm⟩
    · intro hall
      cases h : plainWeightings ps r table with
      | ok ws => exact ⟨ws, rfl⟩
      | error f =>
        obtain ⟨before, p, after, rfl, -, hp⟩ := mapM_eq_error_iff.1 h
        obtain ⟨w, hw⟩ := hall p (by simp)
        rw [hp] at hw
        cases hw
  inOrder ws hws := by
    have heq := plainWeightings_eq_ok_iff.1 hws
    have hlength := congrArg List.length heq
    rw [List.length_map, List.length_map] at hlength
    exact ⟨hlength.symm, heq⟩
  firstFailure _ := mapM_eq_error_iff

/-- Over every registry that was made and every table, a profile gives just what it describes, and
    a list of profiles what they give one by one. That a vehicle is not registered or that a name is
    not valid is never the problem. -/
theorem gives_what_it_describes (vs : List Vehicle) (r : Registry)
    (made : Registry.ofVehicles vs = .ok r) (table : TurnTable) :
    (∀ (p : Profile) (outcome : Except CostError PlainWeighting),
        p.plainWeighting r table = outcome ↔ p.Gives r table outcome) ∧
      (∀ (p : Profile) (name : String),
        p.plainWeighting r table ≠ .error (.unregisteredVehicle name) ∧
          p.plainWeighting r table ≠ .error (.invalidName name)) ∧
      (∀ p : Profile, p.turnCosts = false → ∀ (table' : TurnTable) (u : Option Float),
        { p with uTurnCosts := u }.plainWeighting r table' = p.plainWeighting r table) ∧
      ∀ ps : List Profile, BuildsAll ps r table := by
  refine ⟨fun _ _ => plainWeighting_eq_iff_gives made, fun p name => ⟨fun h => ?_, fun h => ?_⟩,
    fun _ h => plainWeighting_of_not_turnCosts h, fun ps => buildsAll ps r table⟩
  · cases (plainWeighting_eq_iff_gives made).1 h
  · cases (plainWeighting_eq_iff_gives made).1 h

theorem gives_what_it_describes_with_negative_uTurnCosts :
    let r : Registry := ⟨[⟨"car", ⟨120⟩, true⟩]⟩
    let table : TurnTable := .build [.restriction ⟨1, 0, 2⟩]
    let costly : Profile := ⟨"costly", "car", "slowest", true, some (-30)⟩
    let free : Profile := ⟨"free", "car", "shortest", false, some (-30)⟩
    let w : PlainWeighting := ⟨.shortest, ⟨⟨"shortest", "car"⟩, ⟨"car", ⟨120⟩, true⟩, .free⟩⟩
    Registry.ofVehicles [.new "car" ⟨120⟩] = .ok r ∧
      costly.plainWeighting r table = .error (.invalidUTurnCost (-30)) ∧
      { costly with vehicle := "bike" }.plainWeighting r table = .error (.unknownVehicle "bike") ∧
      { costly with turnCosts := false }.plainWeighting r table =
        .error (.unknownWeighting "slowest") ∧
      free.plainWeighting r table = .ok w ∧
      { free with uTurnCosts := none }.plainWeighting r .empty = .ok w ∧
      plainWeightings [free, costly, { free with vehicle := "bike" }] r table =
        .error (.invalidUTurnCost (-30)) := by
  intro r table costly free w
  have hmade : Registry.ofVehicles [.new "car" ⟨120⟩] = .ok r := rfl
  have hcar : (⟨"car", ⟨120⟩, true⟩ : Vehicle) ∈ r.vehicles := by simp [r]
  have hbike : ∀ v ∈ r.vehicles, v.name ≠ "bike" := by simp [r]
  have hunfit : IsUnfit (-30) := by decide
  obtain ⟨hgives, -, hfree, hall⟩ := gives_what_it_describes _ r hmade table
  have hcostly := (hgives costly _).2 (.invalidUTurnCost hcar rfl rfl rfl hunfit)
  have hw := (hgives free (.ok w)).2
    (@Gives.withoutTurnCosts _ _ _ _ .shortest _ hcar rfl rfl rfl rfl)
  refine ⟨hmade, hcostly, (hgives _ _).2 (.unknownVehicle hbike), (hgives _ _).2 ?_, hw, ?_, ?_⟩
  · exact .unknownWeighting hcar rfl nofun (by decide) (by decide)
  · rw [hfree free rfl, hw]
  · refine ((hall _).firstFailure _).2 ⟨[free], costly, _, rfl, ?_, hcostly⟩
    simpa using ⟨w, hw⟩

end Profile

end RoutingCosts
