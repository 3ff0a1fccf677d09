import RoutingCosts.Vehicle

set_option autoImplicit false

namespace RoutingCosts

def infiniteWeight : Float := .ofBits 0x7FF0000000000000

inductive CostModel where
  /-- The weight is the travel time in seconds. -/
  | fastest
  /-- The weight is the distance in metres. -/
  | shortest
deriving DecidableEq, Repr

namespace CostModel

def name : CostModel → String
  | .fastest => "fastest"
  | .shortest => "shortest"

theorem name_injective {model model' : CostModel} (h : model.name = model'.name) :
    model = model' := by
  cases model <;> cases model' <;> first | rfl | exact absurd h (by decide)

def ofName? (name : String) : Option CostModel :=
  if name = "fastest" then some .fastest
  else if name = "shortest" then some .shortest
  else none

/-- A lower bound of the weight of any path that covers a distance. -/
def minWeight (model : CostModel) (v : Vehicle) (distance : Meters) : Float :=
  match model with
  | .fastest => distance.seconds v.maxSpeed
  | .shortest => distance.value

def edgeWeight (model : CostModel) (v : Vehicle) (e : EdgeView) (d : Direction) : Float :=
  let d := e.effective d
  if !v.mayTravel e d then infiniteWeight
  else match model with
  | .fastest =>
    let speed := v.speedOn e d
    if !speed.isFinite || decide (speed ≤ 0) then infiniteWeight else e.distance.seconds ⟨speed⟩
  | .shortest => e.distance.value

end CostModel

def Vehicle.closedDirection (v : Vehicle) (e : EdgeView) (d : Direction) : ClosedDirection where
  edge := e.id
  base := e.base
  adjacent := e.adjacent
  distance := e.distance
  direction := d
  forwardAccess := v.mayTravel e .forward
  backwardAccess := v.mayTravel e .backward
  forwardSpeed := v.speedOn e .forward
  backwardSpeed := v.speedOn e .backward

def Vehicle.edgeTime (v : Vehicle) (e : EdgeView) (d : Direction) : Except CostError UInt64 :=
  let d := e.effective d
  if !v.mayTravel e d then .error (.wrongDirection (v.closedDirection e d))
  else
    let speed := v.speedOn e d
    if !speed.isFinite || decide (speed < 0) then .error (.invalidSpeed e.id d speed)
    else if speed == 0 then .error (.zeroSpeed e.id d)
    else .ok (roundToWord (e.distance.milliseconds ⟨speed⟩))

end RoutingCosts
