import RoutingCosts.Number.Shortest

set_option autoImplicit false

namespace RoutingCosts

structure Layout where
  tie : TieRule
  /-- Numbers below `10^above` and from `10^(below - 1)` on are written without an exponent;
      without bounds all are. -/
  positional : Option (Int × Int)
  wholePoint : Bool
  plusSign : Bool
  undefined : String
  infinite : String
  negativeInfinite : String

namespace Layout

def isPositional (l : Layout) (order : Int) : Bool :=
  match l.positional with
  | none => true
  | some (below, above) => decide (below ≤ order) && decide (order ≤ above)

def decimal (l : Layout) (d : Decimal) : List Char :=
  let ds := Nat.toDigits 10 d.digits
  let order := d.exponent + ds.length
  if l.isPositional order then
    if 0 ≤ d.exponent then
      ds ++ List.replicate d.exponent.toNat '0' ++ (if l.wholePoint then ['.', '0'] else [])
    else if 0 < order then ds.take order.toNat ++ '.' :: ds.drop order.toNat
    else '0' :: '.' :: (List.replicate (-order).toNat '0' ++ ds)
  else
    let fraction := if ds.length = 1 then [] else '.' :: ds.drop 1
    let power := order - 1
    let sign := if power < 0 then ['-'] else if l.plusSign then ['+'] else []
    ds.take 1 ++ fraction ++ 'e' :: (sign ++ Nat.toDigits 10 power.natAbs)

def render (l : Layout) (x : Float) : String :=
  match Binary.ofFloat x with
  | .undefined => l.undefined
  | .infinite negative => if negative then l.negativeInfinite else l.infinite
  | .finite negative m q =>
    .ofList ((if negative then ['-'] else []) ++ l.decimal (shortest l.tie m q))

end Layout

end RoutingCosts
