import RoutingCosts.Number.Binary

/-!
# Shortest decimals

A decimal reads back as a double if it lies in the interval of reals that round to that double.
`shortest` gives the decimal with the fewest digits that does, and of those the one nearest to
the double. It tries the grids `10^k` from coarse to fine; on a grid only the two neighbours of
the double can be the nearest points.
-/

set_option autoImplicit false

namespace RoutingCosts

structure Decimal where
  digits : Nat
  exponent : Int
deriving DecidableEq, Repr

inductive TieRule where
  | toEven
  | upward
deriving DecidableEq, Repr

/-- A positive number and the ends of its rounding interval, as numerators over one denominator. -/
structure Interval where
  low : Nat
  value : Nat
  high : Nat
  denominator : Nat
  closed : Bool

namespace Interval

/-- The reals that round to `m * 2^q`. Below a power of two the neighbour is half as far away,
    unless both are on the finest grid there is. -/
def ofBinary (m : Nat) (q : Int) : Interval :=
  let narrow := m == 1 <<< 52 && decide (-1074 < q)
  let scale := 1 <<< (q - 2).toNat
  { low := (if narrow then 4 * m - 1 else 4 * m - 2) * scale
    value := 4 * m * scale
    high := (4 * m + 2) * scale
    denominator := 1 <<< (2 - q).toNat
    closed := m % 2 == 0 }

def inUnits (i : Interval) (k : Int) : Interval :=
  { low := i.low * Nat.pow 10 (-k).toNat
    value := i.value * Nat.pow 10 (-k).toNat
    high := i.high * Nat.pow 10 (-k).toNat
    denominator := i.denominator * Nat.pow 10 k.toNat
    closed := i.closed }

def contains (i : Interval) (n : Nat) : Bool :=
  let p := n * i.denominator
  (decide (i.low < p) && decide (p < i.high)) || (i.closed && (i.low == p || p == i.high))

/-- The natural number in the interval that is nearest to the value, if one of the two
    neighbours of the value lies in it. -/
def nearest? (i : Interval) (tie : TieRule) : Option Nat :=
  let n := i.value / i.denominator
  match i.contains n, i.contains (n + 1) with
  | false, false => none
  | true, false => some n
  | false, true => some (n + 1)
  | true, true =>
    match compare (2 * i.value) ((2 * n + 1) * i.denominator), tie with
    | .lt, _ => some n
    | .gt, _ => some (n + 1)
    | .eq, .upward => some (n + 1)
    | .eq, .toEven => some (n + n % 2)

theorem contains_of_nearest? {i : Interval} {tie : TieRule} {n : Nat}
    (h : i.nearest? tie = some n) : i.contains n = true := by
  simp only [nearest?] at h
  split at h
  · cases h
  · rename_i low _
    exact Option.some.inj h ▸ low
  · rename_i _ high
    exact Option.some.inj h ▸ high
  · rename_i low high
    split at h
    · exact Option.some.inj h ▸ low
    · exact Option.some.inj h ▸ high
    · exact Option.some.inj h ▸ high
    · rcases Nat.mod_two_eq_zero_or_one (i.value / i.denominator) with hp | hp <;> rw [hp] at h
      · exact Option.some.inj h ▸ low
      · exact Option.some.inj h ▸ high

def order (i : Interval) : Int :=
  if i.denominator ≤ i.value then (Nat.toDigits 10 (i.value / i.denominator)).length
  else 1 - (Nat.toDigits 10 ((i.denominator - 1) / i.value)).length

end Interval

def Decimal.trim (digits : Nat) (exponent : Int) : Decimal :=
  if h : digits ≠ 0 ∧ digits % 10 = 0 then trim (digits / 10) (exponent + 1)
  else ⟨digits, exponent⟩
termination_by digits
decreasing_by exact Nat.div_lt_self (Nat.pos_of_ne_zero h.1) (by decide)

/-- Seventeen digits are enough for a double, so the exact value at the end is never needed. -/
def shortest (tie : TieRule) (m : Nat) (q : Int) : Decimal :=
  if m = 0 then ⟨0, 0⟩ else
  let i := Interval.ofBinary m q
  let onGrid (n : Nat) : Option Decimal :=
    let k := i.order - (n + 1)
    ((i.inUnits k).nearest? tie).map (Decimal.trim · k)
  match (List.range 17).findSome? onGrid with
  | some d => d
  | none => Decimal.trim (m <<< q.toNat * Nat.pow 5 (-q).toNat) (min q 0)

end RoutingCosts
