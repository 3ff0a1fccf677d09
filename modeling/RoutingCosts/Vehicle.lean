import RoutingCosts.Error
import RoutingCosts.Graph.Edge
import RoutingCosts.Json.Record

/-!
# Vehicles and their registry

A vehicle reads its access and its speed from the edges. It can be used for costs once it is in a
registry; a registry holds no name twice and only finite, positive maximal speeds.
-/

set_option autoImplicit false

namespace RoutingCosts

/-- The properties a vehicle reads are named after it, so they are made from its name and not kept
    beside it. -/
structure Vehicle where
  name : String
  maxSpeed : Kmh
  registered : Bool
deriving DecidableEq

namespace Vehicle

def new (name : String) (maxSpeed : Kmh) : Vehicle := ⟨name, maxSpeed, false⟩

def access (v : Vehicle) : Property := .access v.name

def speed (v : Vehicle) : Property := .speed v.name

/-- An edge without an entry is closed. -/
def mayTravel (v : Vehicle) (e : EdgeView) (d : Direction) : Bool :=
  (e.flag? v.access d).getD false

def speedOn (v : Vehicle) (e : EdgeView) (d : Direction) : Float :=
  (e.number? v.speed d).getD 0

end Vehicle

structure VehicleConfig where
  name : String
  /-- In kilometres per hour. -/
  maxSpeed : Float
deriving DecidableEq

namespace VehicleConfig

structure Draft where
  name : Option String
  maxSpeed : Option Float

def record : Json.Record Draft VehicleConfig where
  fields :=
    [.of "name" Draft.name (fun d s => { d with name := some s }) .text,
     .of "max_speed" Draft.maxSpeed (fun d x => { d with maxSpeed := some x }) .number]
  blank := ⟨none, none⟩
  finish d := do return ⟨← d.name, ← d.maxSpeed⟩

def reader : Json.Reader VehicleConfig := .record record

def write (c : VehicleConfig) : String :=
  .ofList (Json.writeObject
    [("name", Json.writeText c.name), ("max_speed", Json.writeNumber c.maxSpeed)])

def vehicle (c : VehicleConfig) : Vehicle := .new c.name ⟨c.maxSpeed⟩

def parse (text : String) : Except CostError VehicleConfig :=
  (reader.document text).mapError .configuration

def parseList (text : String) : Except CostError (List VehicleConfig) :=
  ((Json.Reader.list reader).document text).mapError .configuration

end VehicleConfig

structure Registry where
  vehicles : List Vehicle

namespace Registry

def isMaxSpeed (v : Kmh) : Bool := v.value.isFinite && !decide (v.value ≤ 0)

/-- Reports the first vehicle whose maximal speed is of no use or whose name is among those `seen`
    before it. -/
def check (seen : List String) : List Vehicle → Except CostError Unit
  | [] => .ok ()
  | v :: vs =>
    if !isMaxSpeed v.maxSpeed then .error (.invalidMaxSpeed v.name v.maxSpeed)
    else if v.name ∈ seen then .error (.duplicateVehicle v.name)
    else check (v.name :: seen) vs

def ofVehicles (vs : List Vehicle) : Except CostError Registry :=
  (check [] vs).map fun _ => ⟨vs.map fun v => { v with registered := true }⟩

def ofConfigs (cs : List VehicleConfig) : Except CostError Registry :=
  ofVehicles (cs.map VehicleConfig.vehicle)

def vehicle (r : Registry) (name : String) : Except CostError Vehicle :=
  match r.vehicles.find? fun v => v.name == name with
  | some v => .ok v
  | none => .error (.unknownVehicle name)

theorem name_of_vehicle {r : Registry} {name : String} {v : Vehicle} (h : r.vehicle name = .ok v) :
    v.name = name := by
  unfold vehicle at h
  split at h
  · rename_i u hu
    rw [Except.ok.injEq] at h
    rw [← h]
    simpa using List.find?_some hu
  · cases h

def has (r : Registry) (name : String) : Bool := r.vehicles.any fun v => v.name == name

end Registry

end RoutingCosts
