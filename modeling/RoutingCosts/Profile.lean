import RoutingCosts.Weighting.Basic

set_option autoImplicit false

namespace RoutingCosts

structure Profile where
  name : String
  vehicle : String
  weighting : String
  turnCosts : Bool
  /-- The weight of turning back, where turns cost anything; without it that is forbidden. -/
  uTurnCosts : Option Float
deriving DecidableEq

namespace Profile

structure Draft where
  name : Option String
  vehicle : Option String
  weighting : Option String
  turnCosts : Option Bool
  uTurnCosts : Option (Option Float)

def record : Json.Record Draft Profile where
  fields :=
    [.of "name" Draft.name (fun d s => { d with name := some s }) .text,
     .of "vehicle" Draft.vehicle (fun d s => { d with vehicle := some s }) .text,
     .of "weighting" Draft.weighting (fun d s => { d with weighting := some s }) .text,
     .of "turn_costs" Draft.turnCosts (fun d b => { d with turnCosts := some b }) .flag,
     .of "u_turn_costs" Draft.uTurnCosts (fun d x => { d with uTurnCosts := some x })
      (.orNull .number)]
  blank := ⟨none, none, none, none, none⟩
  finish d := do
    return ⟨← d.name, ← d.vehicle, ← d.weighting, d.turnCosts.getD false, d.uTurnCosts.getD none⟩

def reader : Json.Reader Profile := .record record

def parse (text : String) : Except CostError Profile :=
  (reader.document text).mapError .configuration

def parseList (text : String) : Except CostError (List Profile) :=
  ((Json.Reader.list reader).document text).mapError .configuration

def write (p : Profile) : String :=
  .ofList (Json.writeObject
    [("name", Json.writeText p.name), ("vehicle", Json.writeText p.vehicle),
     ("weighting", Json.writeText p.weighting), ("turn_costs", Json.writeFlag p.turnCosts),
     ("u_turn_costs", Json.writeOrNull Json.writeNumber p.uTurnCosts)])

def turnCostsFrom (p : Profile) (table : TurnTable) : Except CostError TurnCosts :=
  if p.turnCosts then TurnCosts.ofTable table p.uTurnCosts else .ok .free

/-- The weighting of a profile. An unknown vehicle is reported first, then a cost of turning back
    that cannot be charged, then an unknown cost model. -/
def plainWeighting (p : Profile) (registry : Registry) (table : TurnTable) :
    Except CostError PlainWeighting := do
  let vehicle ← registry.vehicle p.vehicle
  let turnCosts ← p.turnCostsFrom table
  match CostModel.ofName? p.weighting with
  | some model => PlainWeighting.new model vehicle turnCosts
  | none => throw (.unknownWeighting p.weighting)

theorem plainWeighting_eq_ok_iff {p : Profile} {registry : Registry} {table : TurnTable}
    {w : PlainWeighting} :
    p.plainWeighting registry table = .ok w ↔
      ∃ v costs model, registry.vehicle p.vehicle = .ok v ∧ p.turnCostsFrom table = .ok costs ∧
        CostModel.ofName? p.weighting = some model ∧ PlainWeighting.new model v costs = .ok w := by
  unfold plainWeighting
  cases hv : registry.vehicle p.vehicle with
  | error e => simp [bind, Except.bind]
  | ok v =>
    cases hc : p.turnCostsFrom table with
    | error e => simp [bind, Except.bind]
    | ok costs =>
      cases hm : CostModel.ofName? p.weighting with
      | none => simp [bind, Except.bind, throw, throwThe, MonadExceptOf.throw]
      | some model => simp [bind, Except.bind]

theorem key_of_plainWeighting {p : Profile} {registry : Registry} {table : TurnTable}
    {w : PlainWeighting} (h : p.plainWeighting registry table = .ok w) :
    w.basis.key = ⟨w.model.name, w.basis.vehicle.name⟩ := by
  obtain ⟨v, costs, model, _, _, _, hw⟩ := plainWeighting_eq_ok_iff.1 h
  obtain ⟨_, rfl⟩ := PlainWeighting.new_eq_ok_iff.1 hw
  rfl

def plainWeightings (ps : List Profile) (registry : Registry) (table : TurnTable) :
    Except CostError (List PlainWeighting) :=
  ps.mapM fun p => p.plainWeighting registry table

theorem plainWeightings_eq_ok_iff {ps : List Profile} {registry : Registry} {table : TurnTable}
    {ws : List PlainWeighting} :
    plainWeightings ps registry table = .ok ws ↔
      ps.map (·.plainWeighting registry table) = ws.map .ok := by
  unfold plainWeightings
  induction ps generalizing ws with
  | nil => simp [pure, Except.pure, eq_comm]
  | cons p ps ih =>
    rw [List.mapM_cons, List.map_cons]
    cases hw : p.plainWeighting registry table with
    | error e => cases ws <;> simp [bind, Except.bind]
    | ok w =>
      cases hws : ps.mapM fun p => p.plainWeighting registry table with
      | error e =>
        simp only [hws] at ih
        cases ws <;> simp [bind, Except.bind, ← ih]
      | ok xs =>
        simp only [hws, Except.ok.injEq] at ih
        cases ws <;> simp [bind, Except.bind, pure, Except.pure, ← ih]

theorem exists_of_mem_plainWeightings {ps : List Profile} {registry : Registry} {table : TurnTable}
    {ws : List PlainWeighting} (h : plainWeightings ps registry table = .ok ws)
    {w : PlainWeighting} (hw : w ∈ ws) : ∃ p ∈ ps, p.plainWeighting registry table = .ok w := by
  have hmem : (.ok w : Except CostError PlainWeighting) ∈ ws.map .ok := List.mem_map_of_mem hw
  rw [← plainWeightings_eq_ok_iff.1 h] at hmem
  exact List.mem_map.1 hmem

end Profile

end RoutingCosts
