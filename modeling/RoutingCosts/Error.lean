import RoutingCosts.Graph.Basic
import RoutingCosts.Json.Reader
import RoutingCosts.Text.Quoted
import RoutingCosts.Units

set_option autoImplicit false

namespace RoutingCosts

structure ClosedDirection where
  edge : EdgeId
  base : NodeId
  adjacent : NodeId
  distance : Meters
  direction : Direction
  forwardAccess : Bool
  backwardAccess : Bool
  forwardSpeed : Float
  backwardSpeed : Float
deriving DecidableEq

inductive CostError where
  | unregisteredVehicle (vehicle : String)
  | invalidName (name : String)
  | duplicateVehicle (vehicle : String)
  | unknownVehicle (vehicle : String)
  | unknownWeighting (name : String)
  | invalidTurnCost (turn : Turn) (weight : Float)
  | invalidUTurnCost (weight : Float)
  | invalidMaxSpeed (vehicle : String) (maxSpeed : Kmh)
  | wrongDirection (closed : ClosedDirection)
  | invalidSpeed (edge : EdgeId) (direction : Direction) (speed : Float)
  | zeroSpeed (edge : EdgeId) (direction : Direction)
  | noBaseEdgeForShortcut (edge : EdgeId)
  | notAShortcut (edge : EdgeId)
  | configuration (fault : Json.Fault)
deriving DecidableEq

def showId (n : UInt64) : String := .ofList (Nat.toDigits 10 n.toNat)

def showFlag (b : Bool) : String := if b then "true" else "false"

def ClosedDirection.message (c : ClosedDirection) : String :=
  "Calculating time should not require to read speed from edge " ++ showId c.edge
    ++ " in wrong direction. (" ++ showId c.base ++ " - " ++ showId c.adjacent
    ++ "), distance: " ++ c.distance.text
    ++ ", direction: " ++ c.direction.text
    ++ ", fwd: " ++ showFlag c.forwardAccess ++ ", bwd: " ++ showFlag c.backwardAccess
    ++ ", fwd-speed: " ++ showQuantity c.forwardSpeed
    ++ ", bwd-speed: " ++ showQuantity c.backwardSpeed

def CostError.message : CostError → String
  | .unregisteredVehicle vehicle =>
    "Vehicle " ++ vehicle ++ " must be added to an EncodingManager before it is used elsewhere"
  | .invalidName name => "Not a valid name for a weighting: " ++ Text.quoted name
  | .duplicateVehicle vehicle => "Vehicle " ++ vehicle ++ " is registered more than once"
  | .unknownVehicle vehicle => "Unknown vehicle " ++ vehicle
  | .unknownWeighting name => "Unknown weighting " ++ name
  | .invalidTurnCost turn weight =>
    "Turn cost (" ++ showId turn.inEdge ++ " -> " ++ showId turn.via ++ " -> "
      ++ showId turn.outEdge ++ ") must be finite and non-negative, was " ++ showQuantity weight
  | .invalidUTurnCost weight =>
    "U-turn cost must be finite and non-negative, was " ++ showQuantity weight
  | .invalidMaxSpeed vehicle maxSpeed =>
    "Max speed of vehicle " ++ vehicle ++ " must be finite and positive, was " ++ maxSpeed.text
  | .wrongDirection closed => closed.message
  | .invalidSpeed edge direction speed =>
    "Invalid speed stored in edge " ++ showId edge ++ " (" ++ direction.text ++ "): "
      ++ showQuantity speed
  | .zeroSpeed edge direction =>
    "Speed cannot be 0 for unblocked edge " ++ showId edge ++ " (" ++ direction.text
      ++ "), use access properties to mark the edge as blocked"
  | .noBaseEdgeForShortcut edge =>
    "Base edge can only be obtained for original edges, edge " ++ showId edge ++ " is a shortcut"
  | .notAShortcut edge =>
    "Skipped edges can only be obtained for shortcuts, edge " ++ showId edge
      ++ " is not a shortcut"
  | .configuration _ => "Invalid profile configuration"

end RoutingCosts
