import RoutingCosts.Error
import RoutingCosts.Text.LowerCase

set_option autoImplicit false

namespace RoutingCosts

/-- The canonical text of a key is made from its two names and not kept beside them. -/
structure Key where
  name : String
  vehicle : String
deriving DecidableEq, Repr

/-- Names of cost models are not empty and have lower case letters from a to z, `_` and `|`. -/
def isValidName (name : String) : Bool :=
  !name.toList.isEmpty &&
    name.toList.all fun c => (decide ('a' ≤ c) && decide (c ≤ 'z')) || c == '_' || c == '|'

def fileToken (text : String) : String :=
  .ofList ((Text.lowerCase text.toList).map fun c => if c = '|' then '_' else c)

namespace Key

def new (name vehicle : String) : Except CostError Key :=
  if isValidName name then .ok ⟨name, vehicle⟩ else .error (.invalidName name)

def canonical (k : Key) : String := k.name ++ "|" ++ k.vehicle

def fileName (k : Key) : String := fileToken k.canonical

instance : Ord Key where
  compare k l := (compare k.name l.name).then (compare k.vehicle l.vehicle)

def sort (ks : List Key) : List Key := ks.mergeSort fun k l => (compare k l).isLE

def countDistinct (ks : List Key) : Nat := ks.eraseDups.length

end Key

end RoutingCosts
