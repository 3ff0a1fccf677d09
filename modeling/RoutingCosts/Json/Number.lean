import RoutingCosts.Json.Reader

/-!
# JSON numbers

A numeral is cut out of the text first and given a value then. The value is found in two steps:
the digits are gathered into a 64-bit significand, and the significand is scaled by a power of
ten in double arithmetic.
-/

set_option autoImplicit false

namespace RoutingCosts.Json

/-- A number without its sign, as it is written: its digits before and after the point and its
    power of ten. -/
structure Numeral where
  whole : List Char
  fraction : List Char
  power : Int

namespace Numeral

def readWhole : List Char → Except Fault (List Char × List Char)
  | [] => .error .truncated
  | c :: rest =>
    if c = '0' then
      match rest with
      | d :: _ => if d.isDigit then .error .malformed else .ok ([c], rest)
      | [] => .ok ([c], rest)
    else if c.isDigit then .ok (c :: rest.takeWhile Char.isDigit, rest.dropWhile Char.isDigit)
    else .error .malformed

def readDigits (cs : List Char) : Except Fault (List Char × List Char) :=
  match cs.takeWhile Char.isDigit, cs.dropWhile Char.isDigit with
  | [], [] => .error .truncated
  | [], _ :: _ => .error .malformed
  | ds, rest => .ok (ds, rest)

def readFraction : List Char → Except Fault (List Char × List Char)
  | '.' :: rest => readDigits rest
  | cs => .ok ([], cs)

def digitsValue (ds : List Char) : Nat :=
  ds.foldl (fun n d => n * 10 + (d.toNat - '0'.toNat)) 0

def powerSign : List Char → Bool × List Char
  | '-' :: rest => (true, rest)
  | '+' :: rest => (false, rest)
  | cs => (false, cs)

def readPower : List Char → Except Fault (Int × List Char)
  | [] => .ok (0, [])
  | c :: rest =>
    if c = 'e' ∨ c = 'E' then
      match readDigits (powerSign rest).2 with
      | .error f => .error f
      | .ok (ds, tail) =>
        .ok (if (powerSign rest).1 then -(digitsValue ds : Int) else digitsValue ds, tail)
    else .ok (0, c :: rest)

def read (cs : List Char) : Except Fault (Numeral × List Char) :=
  match readWhole cs with
  | .error f => .error f
  | .ok (whole, rest) =>
    match readFraction rest with
    | .error f => .error f
    | .ok (fraction, rest) =>
      match readPower rest with
      | .error f => .error f
      | .ok (power, rest) => .ok (⟨whole, fraction, power⟩, rest)

theorem length_dropWhile (cs : List Char) :
    (cs.dropWhile Char.isDigit).length ≤ cs.length :=
  (List.dropWhile_suffix _).length_le

theorem readWhole_shorter {cs ds rest : List Char} (h : readWhole cs = .ok (ds, rest)) :
    rest.length < cs.length := by
  unfold readWhole at h
  split at h
  · cases h
  · split at h
    · split at h
      · split at h
        · cases h
        · cases h; simp
      · cases h; simp
    · split at h
      · cases h
        exact Nat.lt_succ_of_le (length_dropWhile _)
      · cases h

theorem readDigits_length {cs ds rest : List Char} (h : readDigits cs = .ok (ds, rest)) :
    rest.length ≤ cs.length := by
  unfold readDigits at h
  split at h
  · cases h
  · cases h
  · cases h; exact length_dropWhile cs

theorem readFraction_length {cs ds rest : List Char} (h : readFraction cs = .ok (ds, rest)) :
    rest.length ≤ cs.length := by
  unfold readFraction at h
  split at h
  · exact Nat.le_succ_of_le (readDigits_length h)
  · cases h; exact Nat.le_refl _

theorem powerSign_length (cs : List Char) : (powerSign cs).2.length ≤ cs.length := by
  unfold powerSign
  split <;> simp

theorem readPower_length {cs rest : List Char} {e : Int} (h : readPower cs = .ok (e, rest)) :
    rest.length ≤ cs.length := by
  cases cs with
  | nil => cases h; exact Nat.le_refl _
  | cons c cs =>
    simp only [readPower] at h
    split at h
    · split at h
      · cases h
      · rename_i ds tail hd
        cases h
        exact Nat.le_succ_of_le (Nat.le_trans (readDigits_length hd) (powerSign_length cs))
    · cases h; exact Nat.le_refl _

theorem read_shorter {cs rest : List Char} {n : Numeral} (h : read cs = .ok (n, rest)) :
    rest.length < cs.length := by
  unfold read at h
  split at h
  · cases h
  · rename_i whole first hw
    split at h
    · cases h
    · rename_i fraction second hf
      split at h
      · cases h
      · rename_i power third hp
        cases h
        have := readWhole_shorter hw
        have := readFraction_length hf
        have := readPower_length hp
        omega

/-- Takes digits into a significand as long as it fits 64 bits; also tells how many it took. -/
def gather (significand : Nat) : List Char → Nat × Nat
  | [] => (significand, 0)
  | d :: ds =>
    let next := significand * 10 + (d.toNat - '0'.toNat)
    if next < UInt64.size then
      let (n, taken) := gather next ds
      (n, taken + 1)
    else (significand, 0)

def powerOfTen (e : Nat) : Float := .ofScientific 1 false e

def scaleDown (x : Float) (e : Nat) : Float :=
  if e ≤ 308 then x / powerOfTen e
  else if x == 0 then x
  else scaleDown (x / powerOfTen 308) (e - 308)
termination_by e

/-- `x * 10^e`; none if that is beyond the doubles. -/
def scale? (x : Float) : Int → Option Float
  | .ofNat e =>
    if e ≤ 308 then
      let y := x * powerOfTen e
      if y.isInf then none else some y
    else if x == 0 then some x else none
  | .negSucc e => some (scaleDown x (e + 1))

/-- Digits before the point that do not fit the significand count as powers of ten; digits after
    it that do not fit are dropped. -/
def value? (n : Numeral) : Option Float :=
  let (whole, takenWhole) := gather 0 n.whole
  let (significand, takenFraction) := gather whole n.fraction
  scale? significand.toUInt64.toFloat
    (n.power + (n.whole.length - takenWhole : Nat) - takenFraction)

end Numeral

def unsignedNumber (cs : List Char) : Except Fault (Float × List Char) :=
  match Numeral.read cs with
  | .error f => .error f
  | .ok (n, rest) =>
    match n.value? with
    | some x => .ok (x, rest)
    | none => .error .malformed

def signedNumber : List Char → Except Fault (Float × List Char)
  | '-' :: rest => (unsignedNumber rest).map fun p => (-p.1, p.2)
  | cs => unsignedNumber cs

/-- A number that is passed over is not given a value, and any fault in it is one of form. -/
def skipNumber (cs : List Char) : Except Fault (List Char) :=
  match Numeral.read (match cs with | '-' :: rest => rest | cs => cs) with
  | .error _ => .error .malformed
  | .ok (_, rest) => .ok rest

theorem unsignedNumber_shorter {cs rest : List Char} {x : Float}
    (h : unsignedNumber cs = .ok (x, rest)) : rest.length < cs.length := by
  unfold unsignedNumber at h
  split at h
  · cases h
  · rename_i n tail hn
    split at h
    · cases h; exact Numeral.read_shorter hn
    · cases h

theorem signedNumber_shorter {cs rest : List Char} {x : Float}
    (h : signedNumber cs = .ok (x, rest)) : rest.length < cs.length := by
  unfold signedNumber at h
  split at h
  · rename_i tail
    cases hu : unsignedNumber tail with
    | error f => rw [hu] at h; cases h
    | ok p =>
      rw [hu] at h
      cases h
      exact Nat.lt_succ_of_lt (unsignedNumber_shorter hu)
  · exact unsignedNumber_shorter h

theorem skipNumber_shorter {cs rest : List Char} (h : skipNumber cs = .ok rest) :
    rest.length < cs.length := by
  unfold skipNumber at h
  split at h
  · cases h
  · rename_i n tail hn
    cases h
    have := Numeral.read_shorter hn
    split at this
    · simp only [List.length_cons]; omega
    · exact this

end RoutingCosts.Json
