import RoutingCosts.Json.Record
import RoutingCosts.Json.Writer
import RoutingCosts.Weighting.Key

set_option autoImplicit false

namespace RoutingCosts

structure Hints where
  weighting : String
  vehicle : String
deriving DecidableEq, Repr

namespace Hints

def accepts (wanted actual : String) : Bool := wanted.isEmpty || wanted == actual

def matchesKey (h : Hints) (k : Key) : Bool :=
  accepts h.weighting k.name && accepts h.vehicle k.vehicle

structure Draft where
  weighting : Option String
  vehicle : Option String

def record : Json.Record Draft Hints where
  fields :=
    [.of "weighting" Draft.weighting (fun d s => { d with weighting := some s }) .text,
     .of "vehicle" Draft.vehicle (fun d s => { d with vehicle := some s }) .text]
  blank := ⟨none, none⟩
  finish d := some ⟨d.weighting.getD "", d.vehicle.getD ""⟩

def reader : Json.Reader Hints := .record record

def parse (text : String) : Except CostError Hints :=
  (reader.document text).mapError .configuration

def write (h : Hints) : String :=
  .ofList (Json.writeObject
    [("weighting", Json.writeText h.weighting), ("vehicle", Json.writeText h.vehicle)])

end Hints

end RoutingCosts
