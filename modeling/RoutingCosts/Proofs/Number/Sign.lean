import RoutingCosts.Proofs.Number.Arithmetic

set_option autoImplicit false

open Float.Model
open Float.Model.UnpackedFloat hiding round

namespace RoutingCosts

/-- The double has the sign, whether it is infinite, a zero or anything between. -/
inductive HasSign (s : Sign) (x : Float) : Prop
  | infinite (unpack : x.toModel.unpack = .infinity s)
  | zero (unpack : x.toModel.unpack = .zero s)
  | finite {m : ℕ} {e : ℤ} {hm : 0 < m} (unpack : x.toModel.unpack = .finite s m e hm)

section Sign

variable {s : Sign} {x y : Float} {b : ℚ}

theorem hasSign_of_lt (h : x < 0) : HasSign .negative x := by
  rw [lt_iff_unpack] at h
  cases hu : x.toModel.unpack with
  | notANumber => rw [hu] at h; cases h
  | infinity s =>
    cases s with
    | negative => exact .infinite hu
    | positive => rw [hu] at h; cases h
  | zero s => rw [hu] at h; cases h
  | finite s m e hm =>
    cases s with
    | negative => exact .finite hu
    | positive => rw [hu] at h; cases h

theorem HasSign.roundToWord_eq (h : HasSign .negative x) : roundToWord x = 0 := by
  cases h with
  | infinite hu => rw [roundToWord, Binary.ofFloat, hu]; rfl
  | zero hu => rw [roundToWord, Binary.ofFloat, hu]; rfl
  | finite hu => rw [roundToWord, Binary.ofFloat, hu]; rfl

theorem hasSign_pack_zero (s : Sign) : HasSign s (.ofModel (Float.Model.pack (.zero s))) :=
  .zero unpack_packedZero

theorem hasSign_pack_infinity (s : Sign) :
    HasSign s (.ofModel (Float.Model.pack (.infinity s))) := by
  cases s with
  | negative => exact .infinite rfl
  | positive => exact .infinite rfl

theorem hasSign_of_isRounding {q : ℚ} {u : UnpackedFloat} (h : IsRounding s q u) :
    HasSign s (.ofModel (Float.Model.pack u)) := by
  cases h with
  | zero value => exact hasSign_pack_zero s
  | @finite m e hm shape value =>
    rcases le_or_gt e 971 with he | he
    · exact .finite (unpack_pack_finite shape he hm)
    · rw [pack_of_overflow s hm he]
      exact hasSign_pack_infinity s

theorem HasSign.mul (hx : HasSign s x) (hy : exactValue? y = some b) (hb : 0 < b) :
    HasSign s (x * y) := by
  have hs : s * .positive = s := by cases s <;> rfl
  rw [mul_eq_pack]
  cases nonneg_of_exactValue? hy hb.le with
  | zero s' hu' hvb => exact absurd hvb hb.ne'
  | positive n e hn hu' hshape' hmax' hvb =>
    rw [hu']
    cases hx with
    | infinite hu =>
      rw [hu, UnpackedFloat.mul, hs]
      exact hasSign_pack_infinity s
    | zero hu =>
      rw [hu, UnpackedFloat.mul, hs]
      exact hasSign_pack_zero s
    | @finite m d hm hu =>
      rw [hu, UnpackedFloat.mul, hs]
      exact hasSign_of_isRounding (isRounding_mul s (canonical_of_unpack hu).1 hshape' hm hn)

theorem HasSign.div (hx : HasSign s x) (hy : exactValue? y = some b) (hb : 0 < b) :
    HasSign s (x / y) := by
  have hs : s / .positive = s := by cases s <;> rfl
  rw [div_eq_pack]
  cases nonneg_of_exactValue? hy hb.le with
  | zero s' hu' hvb => exact absurd hvb hb.ne'
  | positive n e hn hu' hshape' hmax' hvb =>
    rw [hu']
    cases hx with
    | infinite hu =>
      rw [hu, UnpackedFloat.div, hs]
      exact hasSign_pack_infinity s
    | zero hu =>
      rw [hu, UnpackedFloat.div, hs]
      exact hasSign_pack_zero s
    | @finite m d hm hu =>
      rw [hu]
      exact hasSign_of_isRounding (isRounding_div s hm hn)

end Sign

section Words

variable {x y : Float} {a b : WithTop ℚ}

theorem IsAmount.roundToWord_le (hx : IsAmount x a) (hy : IsAmount y b) (h : a ≤ b) :
    roundToWord x ≤ roundToWord y := by
  rw [UInt64.le_iff_toNat_le]
  cases hy with
  | infinite hu =>
    have hgreatest : (roundToWord y).toNat = 2 ^ 64 - 1 := by
      rw [roundToWord, Binary.ofFloat, hu]
      rfl
    rw [hgreatest]
    exact Nat.le_pred_of_lt (roundToWord x).toNat_lt
  | @finite q' hv' hq' =>
    cases hx with
    | infinite hu => exact absurd h (not_le.2 (WithTop.coe_lt_top q'))
    | @finite q hv hq =>
      have hround : round q ≤ round q' := by
        rw [round_eq, round_eq]
        exact Int.floor_mono (add_le_add_left (WithTop.coe_le_coe.1 h) _)
      have hword := toNat_roundToWord_eq_min hv hq
      have hword' := toNat_roundToWord_eq_min hv' hq'
      omega

end Words

end RoutingCosts
