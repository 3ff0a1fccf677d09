import RoutingCosts.Proofs.Registry
import RoutingCosts.Proofs.TurnCost.Contract

set_option autoImplicit false

namespace RoutingCosts

/-- The vehicles there can be: new ones, and those of a registry that was made from such. -/
inductive Vehicle.Constructible : Vehicle → Prop
  | new (name : String) (maxSpeed : Kmh) : Constructible (.new name maxSpeed)
  | registered {vs : List Vehicle} {r : Registry} {v : Vehicle} (given : ∀ u ∈ vs, Constructible u)
      (made : Registry.ofVehicles vs = .ok r) (mem : v ∈ r.vehicles) : Constructible v

def Registry.Constructible (r : Registry) : Prop :=
  ∃ vs : List Vehicle, (∀ v ∈ vs, v.Constructible) ∧ ofVehicles vs = .ok r

theorem Registry.Constructible.vehicle {r : Registry} (h : r.Constructible) {v : Vehicle}
    (hv : v ∈ r.vehicles) : v.Constructible := by
  obtain ⟨vs, hvs, hr⟩ := h
  exact .registered hvs hr hv

theorem Vehicle.Constructible.isMaxSpeed {v : Vehicle} (h : v.Constructible)
    (hr : v.registered = true) : Registry.isMaxSpeed v.maxSpeed = true := by
  cases h with
  | new name maxSpeed => cases hr
  | registered given made mem =>
    exact Registry.isMaxSpeed_iff.2 (Registry.isUsable_of_mem made mem)

theorem Vehicle.constructible_iff {v : Vehicle} (hr : v.registered = true) :
    v.Constructible ↔ Registry.isMaxSpeed v.maxSpeed = true := by
  refine ⟨fun h => h.isMaxSpeed hr, fun h => ?_⟩
  have hv : v = { Vehicle.new v.name v.maxSpeed with registered := true } := by rw [← hr]; rfl
  have hmade : Registry.ofVehicles [.new v.name v.maxSpeed] = .ok ⟨[v]⟩ := by
    rw [hv]
    simp [Registry.ofVehicles, Registry.check, Vehicle.new, h, Except.map]
  have hnew : ∀ u ∈ [Vehicle.new v.name v.maxSpeed], u.Constructible := by
    intro u hu
    rw [List.mem_singleton.1 hu]
    exact .new v.name v.maxSpeed
  exact .registered hnew hmade (List.mem_singleton.2 rfl)

/-- The weightings there can be. Turns may cost anything, unless a profile says what they cost. -/
inductive Weighting.Constructible : Weighting → Prop
  | plain {model : CostModel} {v : Vehicle} {costs : TurnCosts} {w : PlainWeighting}
      (vehicle : v.Constructible) (made : PlainWeighting.new model v costs = .ok w) :
      Constructible (.plain w)
  | profile {r : Registry} {p : Profile} {entries : List TurnTable.Entry} {w : PlainWeighting}
      (registry : r.Constructible) (made : p.plainWeighting r (.build entries) = .ok w) :
      Constructible (.plain w)
  | query {w : Weighting} (inner : Constructible w) (costs : TurnCosts) :
      Constructible (w.query costs)

namespace Weighting

theorem Constructible.vehicle {w : Weighting} (h : w.Constructible) :
    w.vehicle.Constructible ∧ w.vehicle.registered = true := by
  induction h with
  | plain vehicle made =>
    obtain ⟨hr, rfl⟩ := PlainWeighting.new_eq_ok_iff.1 made
    exact ⟨vehicle, hr⟩
  | profile registry made =>
    obtain ⟨v, costs, model, hv, _, _, hw⟩ := Profile.plainWeighting_eq_ok_iff.1 made
    obtain ⟨hr, rfl⟩ := PlainWeighting.new_eq_ok_iff.1 hw
    exact ⟨registry.vehicle (Registry.mem_of_vehicle hv), hr⟩
  | query inner costs ih => exact ih

theorem Constructible.exists_name {w : Weighting} (h : w.Constructible) :
    ∃ model : CostModel, w.key.name = model.name := by
  induction h with
  | plain vehicle made =>
    obtain ⟨-, rfl⟩ := PlainWeighting.new_eq_ok_iff.1 made
    exact ⟨_, rfl⟩
  | profile registry made => exact ⟨_, congrArg Key.name (Profile.key_of_plainWeighting made)⟩
  | query inner costs ih => exact ih

theorem Constructible.isMaxSpeed {w : Weighting} (h : w.Constructible) :
    Registry.isMaxSpeed w.vehicle.maxSpeed = true :=
  h.vehicle.1.isMaxSpeed h.vehicle.2

end Weighting

end RoutingCosts
