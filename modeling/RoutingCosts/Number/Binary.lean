set_option autoImplicit false

namespace RoutingCosts

inductive Binary where
  | undefined
  | infinite (negative : Bool)
  | finite (negative : Bool) (m : Nat) (q : Int)
deriving DecidableEq, Repr

namespace Binary

def ofFloat (x : Float) : Binary :=
  match x.toModel.unpack with
  | .notANumber => .undefined
  | .infinity s => .infinite (s == .negative)
  | .zero s => .finite (s == .negative) 0 0
  | .finite s m q _ => .finite (s == .negative) m q

/-- The natural number nearest to `m * 2^q`; a half goes up. -/
def nearest (m : Nat) : Int → Nat
  | .ofNat k => m <<< k
  | .negSucc k => (m + 1 <<< k) >>> (k + 1)

/-- The nearest 64-bit word: a half goes away from zero, what lies outside goes to the nearer
    end, and an undefined number goes to zero. -/
def toWord : Binary → UInt64
  | .undefined => 0
  | .infinite negative => if negative then 0 else .ofNatClamp (UInt64.size - 1)
  | .finite negative m q => if negative then 0 else .ofNatClamp (nearest m q)

end Binary

def roundToWord (x : Float) : UInt64 := (Binary.ofFloat x).toWord

def order? (x y : Float) : Option Ordering :=
  if x < y then some .lt
  else if x == y then some .eq
  else if y < x then some .gt
  else none

end RoutingCosts
