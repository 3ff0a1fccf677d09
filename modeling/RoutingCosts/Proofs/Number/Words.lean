import RoutingCosts.Proofs.Number.Amount

set_option autoImplicit false

open Float.Model
open Float.Model.UnpackedFloat hiding round

namespace RoutingCosts

def roundAway (a : ℚ) : ℤ := if 0 ≤ a then round a else -round (-a)

/-- The word that a double is rounded to. -/
inductive IsNearestWord (x : Float) (t : UInt64) : Prop
  | undefined (isNaN : x.isNaN = true) (value : t = 0)
  | negativeInfinite (isInf : x.isInf = true) (negative : x < 0) (value : t = 0)
  | positiveInfinite (isInf : x.isInf = true) (positive : 0 < x) (value : t.toNat = 2 ^ 64 - 1)
  | finite {a : ℚ} (exact : exactValue? x = some a)
      (value : (t.toNat : ℤ) = max 0 (min (roundAway a) (2 ^ 64 - 1)))

theorem isFinite_eq_not (x : Float) : x.isFinite = !(x.isNaN || x.isInf) := by
  rw [isFinite_eq_unpack, isNaN_eq_unpack, isInf_eq_unpack]
  cases x.toModel.unpack <;> rfl

theorem isNaN_eq_false_of_isFinite {x : Float} (h : x.isFinite = true) : x.isNaN = false := by
  rw [isFinite_eq_not, Bool.not_eq_true', Bool.or_eq_false_iff] at h
  exact h.1

theorem roundAway_of_nonneg {a : ℚ} (h : 0 ≤ a) : roundAway a = round a := if_pos h

theorem roundAway_nonpos {a : ℚ} (h : a < 0) : roundAway a ≤ 0 := by
  have hround : 0 ≤ round (-a) := by
    rw [round_eq]
    exact Int.floor_nonneg.2 (by linarith)
  rw [roundAway, if_neg (not_le.2 h)]
  omega

theorem isNearestWord_roundToWord (x : Float) : IsNearestWord x (roundToWord x) := by
  cases hu : x.toModel.unpack with
  | notANumber =>
    refine .undefined ?_ ?_
    · rw [isNaN_eq_unpack, hu]
      rfl
    · rw [roundToWord, Binary.ofFloat, hu]
      rfl
  | infinity s =>
    have hinf : x.isInf = true := by
      rw [isInf_eq_unpack, hu]
      rfl
    cases s with
    | negative =>
      refine .negativeInfinite hinf ?_ ?_
      · rw [lt_iff_unpack, hu]
        rfl
      · rw [roundToWord, Binary.ofFloat, hu]
        rfl
    | positive =>
      refine .positiveInfinite hinf ?_ ?_
      · rw [lt_iff_unpack, hu]
        rfl
      · rw [roundToWord, Binary.ofFloat, hu]
        rfl
  | zero s =>
    refine .finite (exactValue?_of_zero hu) ?_
    rw [roundAway_of_nonneg le_rfl, round_zero, roundToWord, Binary.ofFloat, hu]
    cases s <;> rfl
  | finite s m e hm =>
    have hpos := mantissa_mul_pos e hm
    cases s with
    | positive =>
      have hsign : (Sign.positive == Sign.negative) = false := rfl
      refine .finite (exactValue?_of_positive hu) ?_
      rw [roundAway_of_nonneg hpos.le, ← Binary.nearest_eq_round]
      simp only [roundToWord, Binary.ofFloat, hu, hsign, Binary.toWord, Bool.false_eq_true, if_false,
        toNat_ofNatClamp]
      omega
    | negative =>
      have hsign : (Sign.negative == Sign.negative) = true := rfl
      refine .finite (exactValue?_of_negative hu) ?_
      have hle := roundAway_nonpos (neg_lt_zero.2 hpos)
      simp only [roundToWord, Binary.ofFloat, hu, hsign, Binary.toWord, if_true, UInt64.toNat_zero]
      omega

end RoutingCosts
