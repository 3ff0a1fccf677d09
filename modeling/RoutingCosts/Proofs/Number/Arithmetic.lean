import RoutingCosts.Proofs.Number.Amount

set_option autoImplicit false

open Float.Model
open Float.Model.UnpackedFloat hiding round

namespace RoutingCosts

section Results

theorem exactValue?_pack_zero (s : Sign) :
    exactValue? (.ofModel (Float.Model.pack (.zero s))) = some 0 :=
  exactValue?_of_zero (s := s) unpack_packedZero

theorem isAmount_pack_infinity :
    IsAmount (.ofModel (Float.Model.pack (.infinity .positive))) ⊤ :=
  .infinite rfl

theorem two_zpow_le_cast {m : ℕ} (h : 2 ^ 52 ≤ m) : (2 : ℚ) ^ (52 : ℤ) ≤ m := by
  have hz : (2 : ℚ) ^ (52 : ℤ) = ((2 ^ 52 : ℕ) : ℚ) := by norm_num
  rw [hz]
  exact Nat.cast_le.2 h

theorem Canonical.two_pow_le {m : ℕ} {e : ℤ} (h : Canonical m e) (he : 971 < e) :
    (2 : ℚ) ^ 1024 ≤ m * 2 ^ e := by
  have hfull : 2 ^ 52 ≤ m := h.full.resolve_left (by omega)
  calc
    (2 : ℚ) ^ 1024 = 2 ^ (1024 : ℤ) := (zpow_natCast 2 1024).symm
    _ = 2 ^ (52 : ℤ) * 2 ^ (972 : ℤ) := by rw [← zpow_add₀ two_ne_zero]; rfl
    _ ≤ 2 ^ (52 : ℤ) * 2 ^ e :=
      mul_le_mul_of_nonneg_left (zpow_le_zpow_right₀ one_le_two (by omega)) (two_zpow_pos 52).le
    _ ≤ m * 2 ^ e := mul_le_mul_of_nonneg_right (two_zpow_le_cast hfull) (two_zpow_pos e).le

theorem pack_of_overflow {m : ℕ} {e : ℤ} (s : Sign) (hm : 0 < m) (he : 971 < e) :
    Float.Model.pack (.finite s m e hm) = Float.Model.pack (.infinity s) := by
  have hover : 2 ^ 11 ≤ (e + 1075).toNat + 1 := by omega
  have hpack : UnpackedFloat.pack Format.binary64 (.finite s m e hm) =
      UnpackedFloat.pack Format.binary64 (.infinity s) := by
    rw [pack_finite_eq, if_pos hover]
    rfl
  unfold Float.Model.pack
  simp only [hpack]

/-- A rounding whose exponent is too great becomes infinity when it is packed. -/
theorem isAmount_of_isRounding {x : ℚ} {u : UnpackedFloat} (h : IsRounding .positive x u) :
    IsAmount (.ofModel (Float.Model.pack u)) (rounded x) := by
  cases h with
  | zero value =>
    have hbound : (0 : ℚ) < 2 ^ 1024 := pow_pos two_pos 1024
    rw [rounded_coe, value, if_pos hbound]
    exact .finite (exactValue?_pack_zero _) le_rfl
  | @finite m e hm shape value =>
    rw [rounded_coe, value]
    rcases le_or_gt e 971 with he | he
    · rw [if_pos (shape.lt_two_pow he)]
      exact .finite (exactValue?_of_positive (unpack_pack_finite shape he hm))
        (mantissa_mul_pos e hm).le
    · rw [if_neg (not_lt.2 (shape.two_pow_le he)), pack_of_overflow .positive hm he]
      exact isAmount_pack_infinity

end Results

section Product

theorem add_le_lastPlace_mul {m n : ℕ} {d e : ℤ} (hm : Canonical m d) (hn : Canonical n e)
    (hm₀ : 0 < m) (hn₀ : 0 < n) : d + e ≤ lastPlace ((m : ℚ) * 2 ^ d * (n * 2 ^ e)) := by
  have hone (k : ℕ) (hk : 0 < k) : (1 : ℚ) ≤ k := by exact_mod_cast hk
  have hprod : (m : ℚ) * 2 ^ d * (n * 2 ^ e) = m * n * 2 ^ (d + e) := by
    rw [zpow_add₀ two_ne_zero]
    ring
  have hfull (h : (2 : ℚ) ^ (52 : ℤ) ≤ m * n) :
      d + e ≤ lastPlace ((m : ℚ) * 2 ^ d * (n * 2 ^ e)) := by
    apply le_lastPlace_of_two_zpow_le
    rw [hprod, zpow_add₀ two_ne_zero]
    exact mul_le_mul_of_nonneg_right h (two_zpow_pos _).le
  rcases hm.full with hd | hm'
  · rcases hn.full with he | hn'
    · exact (show d + e ≤ -1074 by omega).trans (le_max_right _ _)
    · exact hfull ((two_zpow_le_cast hn').trans
        (le_mul_of_one_le_left (Nat.cast_nonneg n) (hone m hm₀)))
  · exact hfull ((two_zpow_le_cast hm').trans
      (le_mul_of_one_le_right (Nat.cast_nonneg m) (hone n hn₀)))

theorem isRounding_mul {m n : ℕ} {d e : ℤ} (s : Sign) (hm : Canonical m d) (hn : Canonical n e)
    (hm₀ : 0 < m) (hn₀ : 0 < n) :
    IsRounding s ((m : ℚ) * 2 ^ d * (n * 2 ^ e))
      (roundWithAccuracy Format.binary64 s (m * n) (d + e) .exact) := by
  apply roundWithAccuracy_isRounding
  · exact mul_pos (mantissa_mul_pos d hm₀) (mantissa_mul_pos e hn₀)
  · have hscaled : (m : ℚ) * 2 ^ d * (n * 2 ^ e) / 2 ^ (d + e) = ((m * n : ℕ) : ℚ) := by
      rw [zpow_add₀ two_ne_zero, Nat.cast_mul]
      field_simp
    rw [hscaled]
    exact represents_ofMantissaAndAccuracy_exact _
  · exact add_le_lastPlace_mul hm hn hm₀ hn₀

theorem mul_eq_pack (x y : Float) :
    x * y = .ofModel (Float.Model.pack
      (UnpackedFloat.mul Format.binary64 x.toModel.unpack y.toModel.unpack)) := rfl

theorem rounded_zero : rounded ((0 : ℚ) : WithTop ℚ) = (0 : ℚ) :=
  isAmount_zero.rounded_eq

theorem isAmount_pack_zero (s : Sign) :
    IsAmount (.ofModel (Float.Model.pack (.zero s))) (rounded ((0 : ℚ) : WithTop ℚ)) := by
  rw [rounded_zero]
  exact .finite (exactValue?_pack_zero s) le_rfl

theorem isAmount_mul_of_exactValue? {x y : Float} {a b : ℚ} (hx : exactValue? x = some a)
    (hy : exactValue? y = some b) (ha : 0 ≤ a) (hb : 0 ≤ b) :
    IsAmount (x * y) (rounded ((a * b : ℚ) : WithTop ℚ)) := by
  rw [mul_eq_pack]
  cases nonneg_of_exactValue? hx ha with
  | zero s hu hva =>
    rw [hu, hva, zero_mul]
    cases nonneg_of_exactValue? hy hb with
    | zero s' hu' hvb => rw [hu']; exact isAmount_pack_zero _
    | positive n e hn hu' hshape' hmax' hvb => rw [hu']; exact isAmount_pack_zero _
  | positive m d hm hu hshape hmax hva =>
    cases nonneg_of_exactValue? hy hb with
    | zero s' hu' hvb =>
      rw [hu, hu', hvb, mul_zero]
      exact isAmount_pack_zero _
    | positive n e hn hu' hshape' hmax' hvb =>
      rw [hu, hu', hva, hvb]
      exact isAmount_of_isRounding (isRounding_mul .positive hshape hshape' hm hn)

theorem exactValue?_mul {x y : Float} {a b : ℚ} (hx : exactValue? x = some a)
    (hy : exactValue? y = some b) (ha : 0 ≤ a) (hb : 0 ≤ b)
    (hfit : nearestDouble (a * b) < 2 ^ 1024) :
    exactValue? (x * y) = some (nearestDouble (a * b)) := by
  have h := isAmount_mul_of_exactValue? hx hy ha hb
  rw [rounded_coe, if_pos hfit] at h
  exact h.exactValue?_eq

variable {x y : Float} {a : WithTop ℚ} {b : ℚ}

theorem IsAmount.mul (hx : IsAmount x a) (hy : exactValue? y = some b) (hb : 0 < b) :
    IsAmount (x * y) (rounded (a.map (· * b))) := by
  cases hx with
  | infinite hu =>
    cases nonneg_of_exactValue? hy hb.le with
    | zero s hu' hvb => exact absurd hvb hb.ne'
    | positive n e hn hu' hshape hmax hvb =>
      rw [mul_eq_pack, hu, hu']
      exact isAmount_pack_infinity
  | finite hv ha => exact isAmount_mul_of_exactValue? hv hy ha hb.le

theorem rounded_mul_mono {a' : WithTop ℚ} (ha : 0 ≤ a) (hb : 0 < b) (h : a ≤ a') :
    rounded (a.map (· * b)) ≤ rounded (a'.map (· * b)) := by
  have hmono : Monotone (WithTop.map (· * b)) :=
    (monotone_mul_right_of_nonneg hb.le).withTop_map
  refine rounded_mono ?_ (hmono h)
  calc
    (0 : WithTop ℚ) = WithTop.map (· * b) 0 := by
      rw [← WithTop.coe_zero, WithTop.map_coe, zero_mul]
    _ ≤ a.map (· * b) := hmono ha

end Product

section Quotient

theorem represents_ofMantissaAndAccuracy_inexact {m : ℕ} {x : ℚ} (hlo : (m : ℚ) < x)
    (hhi : x < m + 1) :
    Represents (.ofMantissaAndAccuracy m (.inexact (compare x (m + 1 / 2)))) x := by
  rcases lt_trichotomy x (m + 1 / 2) with h | h | h
  · rw [compare_lt_iff_lt.2 h]
    exact ⟨hlo.le, hhi, iff_of_false Bool.false_ne_true (not_le.2 h),
      iff_of_true rfl ⟨hlo.ne', h.ne⟩⟩
  · rw [compare_eq_iff_eq.2 h]
    exact ⟨hlo.le, hhi, iff_of_true rfl h.ge, iff_of_false Bool.false_ne_true fun k => k.2 h⟩
  · rw [compare_gt_iff_gt.2 h]
    exact ⟨hlo.le, hhi, iff_of_true rfl h.le, iff_of_true rfl ⟨hlo.ne', h.ne'⟩⟩

/-- The remainder of a division tells how far the quotient is from the exact number. -/
theorem represents_div (m : ℕ) {n : ℕ} (hn : 0 < n) :
    Represents (.ofMantissaAndAccuracy (m / n) (accuracyOfFraction (m % n) n)) ((m : ℚ) / n) := by
  have hn' : (0 : ℚ) < n := Nat.cast_pos.2 hn
  have hdiv : (m : ℚ) / n = (m / n : ℕ) + (m % n : ℕ) / n := by
    rw [eq_comm, add_div' _ _ _ hn'.ne', div_left_inj' hn'.ne']
    exact_mod_cast Nat.div_add_mod' m n
  rw [hdiv]
  have hlt : ((m % n : ℕ) : ℚ) < n := Nat.cast_lt.2 (Nat.mod_lt m hn)
  unfold accuracyOfFraction
  split
  · rename_i hzero
    rw [hzero, Nat.cast_zero, zero_div, add_zero]
    exact represents_ofMantissaAndAccuracy_exact _
  · rename_i hpos
    have hpos' : (0 : ℚ) < (m % n : ℕ) := Nat.cast_pos.2 (Nat.pos_of_ne_zero hpos)
    have hcompare : compare (2 * (m % n)) n =
        compare (((m / n : ℕ) : ℚ) + (m % n : ℕ) / n) ((m / n : ℕ) + 1 / 2) := by
      rcases lt_trichotomy (2 * (m % n)) n with h | h | h
      · have h' : (2 : ℚ) * (m % n : ℕ) < n := by exact_mod_cast h
        rw [compare_lt_iff_lt.2 h, eq_comm, compare_lt_iff_lt, add_lt_add_iff_left, div_lt_iff₀ hn']
        linarith
      · have h' : (2 : ℚ) * (m % n : ℕ) = n := by exact_mod_cast h
        rw [compare_eq_iff_eq.2 h, eq_comm, compare_eq_iff_eq, add_right_inj, div_eq_iff hn'.ne']
        linarith
      · have h' : (n : ℚ) < 2 * (m % n : ℕ) := by exact_mod_cast h
        rw [compare_gt_iff_gt.2 h, eq_comm, compare_gt_iff_gt, add_lt_add_iff_left,
          lt_div_iff₀ hn']
        linarith
    rw [hcompare]
    refine represents_ofMantissaAndAccuracy_inexact ?_ ?_
    · exact lt_add_of_pos_right _ (div_pos hpos' hn')
    · exact add_lt_add_right ((div_lt_one hn').2 hlt) _

theorem cast_shiftLeft (m k : ℕ) : ((m <<< k : ℕ) : ℚ) = m * 2 ^ (k : ℤ) := by
  rw [Nat.shiftLeft_eq, Nat.cast_mul, Nat.cast_pow, Nat.cast_ofNat, zpow_natCast]

theorem targetExponent_eq (t : ℤ) : Format.binary64.targetExponent t = max (t - 53) (-1074) := rfl

theorem two_zpow_le_div {m n : ℕ} {d e : ℤ} (hm : 0 < m) (hn : 0 < n) :
    (2 : ℚ) ^ (m.log2 + d - (n.log2 + e + 1)) ≤ (m : ℚ) * 2 ^ d / (n * 2 ^ e) := by
  have hlo := two_zpow_log_le (mantissa_mul_pos d hm)
  have hhi := lt_two_zpow_log ((n : ℚ) * 2 ^ e)
  rw [log_mantissa_mul d hm] at hlo
  rw [log_mantissa_mul e hn] at hhi
  rw [zpow_sub₀ two_ne_zero]
  exact div_le_div₀ (mantissa_mul_pos d hm).le hlo (mantissa_mul_pos e hn) hhi.le

theorem targetExponent_sub_le_lastPlace {m n : ℕ} {d e : ℤ} (hm : 0 < m) (hn : 0 < n) :
    Format.binary64.targetExponent (totalExponent m d - totalExponent n e) ≤
      lastPlace ((m : ℚ) * 2 ^ d / (n * 2 ^ e)) := by
  have hle := two_zpow_le_div (d := d) (e := e) hm hn
  rw [targetExponent_eq]
  refine max_le (le_lastPlace_of_two_zpow_le ?_) (le_max_right _ _)
  have hexp : 52 + (totalExponent m d - totalExponent n e - 53) =
      m.log2 + d - (n.log2 + e + 1) := by
    unfold totalExponent
    omega
  rw [hexp]
  exact hle

theorem isRounding_div {m n : ℕ} {d e : ℤ} (s : Sign) (hm : 0 < m) (hn : 0 < n) :
    IsRounding s ((m : ℚ) * 2 ^ d / (n * 2 ^ e))
      (UnpackedFloat.div Format.binary64 (.finite s m d hm) (.finite .positive n e hn)) := by
  -- the place to which the mantissas are divided; it must not be above the last place
  let t := min (d - e) (Format.binary64.targetExponent (totalExponent m d - totalExponent n e))
  let k := (d - e - t).toNat
  have hpos : 0 < (m : ℚ) * 2 ^ d / (n * 2 ^ e) :=
    div_pos (mantissa_mul_pos d hm) (mantissa_mul_pos e hn)
  have hscaled : (m : ℚ) * 2 ^ d / (n * 2 ^ e) / 2 ^ t = ((m <<< k : ℕ) : ℚ) / n := by
    have hk : (k : ℤ) = d - e - t := Int.toNat_of_nonneg (sub_nonneg.2 (min_le_left _ _))
    rw [cast_shiftLeft, hk, zpow_sub₀ two_ne_zero, zpow_sub₀ two_ne_zero]
    field_simp
  have hplace : t ≤ lastPlace ((m : ℚ) * 2 ^ d / (n * 2 ^ e)) :=
    (min_le_right _ _).trans (targetExponent_sub_le_lastPlace hm hn)
  have hdiv : UnpackedFloat.div Format.binary64 (.finite s m d hm) (.finite .positive n e hn) =
      roundWithAccuracy Format.binary64 s (m <<< k / n) t (accuracyOfFraction (m <<< k % n) n) := by
    cases s <;> rfl
  rw [hdiv]
  refine roundWithAccuracy_isRounding hpos ?_ hplace
  rw [hscaled]
  exact represents_div _ hn

theorem div_eq_pack (x y : Float) :
    x / y = .ofModel (Float.Model.pack
      (UnpackedFloat.div Format.binary64 x.toModel.unpack y.toModel.unpack)) := rfl

variable {x y : Float} {a : WithTop ℚ} {b : ℚ}

theorem IsAmount.div (hx : IsAmount x a) (hy : exactValue? y = some b) (hb : 0 < b) :
    IsAmount (x / y) (rounded (a.map (· / b))) := by
  rw [div_eq_pack]
  cases nonneg_of_exactValue? hy hb.le with
  | zero s hu' hvb => exact absurd hvb hb.ne'
  | positive n e hn hu' hshape' hmax' hvb =>
    rw [hu']
    cases hx with
    | infinite hu =>
      rw [hu]
      exact isAmount_pack_infinity
    | finite hv ha =>
      rw [WithTop.map_coe]
      cases nonneg_of_exactValue? hv ha with
      | zero s hu hva =>
        rw [hu, hva, zero_div]
        exact isAmount_pack_zero _
      | positive m d hm hu hshape hmax hva =>
        rw [hu, hva, hvb]
        exact isAmount_of_isRounding (isRounding_div .positive hm hn)

theorem IsAmount.div_le_div {x' z : Float} {a' : WithTop ℚ} {c : ℚ} (hx : IsAmount x a)
    (hx' : IsAmount x' a') (hy : exactValue? y = some b) (hz : exactValue? z = some c) (hb : 0 < b)
    (hle : a ≤ a') (h : b ≤ c) : x / z ≤ x' / y := by
  have hc : 0 < c := hb.trans_le h
  rw [(hx.div hz hc).le_iff (hx'.div hy hb)]
  induction a' with
  | top => exact le_top
  | coe q' =>
    induction a with
    | top => exact absurd hle (not_le.2 (WithTop.coe_lt_top q'))
    | coe q =>
      have hq : 0 ≤ q := WithTop.coe_nonneg.1 hx.zero_le
      rw [WithTop.map_coe, WithTop.map_coe]
      refine rounded_mono (WithTop.coe_nonneg.2 (div_nonneg hq hc.le)) (WithTop.coe_le_coe.2 ?_)
      exact div_le_div₀ (hq.trans (WithTop.coe_le_coe.1 hle)) (WithTop.coe_le_coe.1 hle) hb h

end Quotient

section Sum

theorem isRounding_round {m : ℕ} {e : ℤ} (s : Sign) (hm : 0 < m) :
    IsRounding s ((m : ℚ) * 2 ^ e) (UnpackedFloat.round Format.binary64 s m e) := by
  let x : ℚ := (m : ℚ) * 2 ^ e
  let k := (e - lastPlace x).toNat
  have htarget : Format.binary64.targetExponent (totalExponent m e) = lastPlace x := by
    rw [targetExponent_binary64, lastPlace, log_mantissa_mul e hm]
  have hround : UnpackedFloat.round Format.binary64 s m e =
      roundWithAccuracy Format.binary64 s (m <<< k) (e - k) .exact := by
    unfold UnpackedFloat.round decreaseExponent
    rw [htarget]
  have hscaled : x / 2 ^ (e - k) = ((m <<< k : ℕ) : ℚ) := by
    rw [cast_shiftLeft, zpow_sub₀ two_ne_zero]
    simp only [x]
    field_simp
  have hplace : e - k ≤ lastPlace x := by omega
  rw [hround]
  refine roundWithAccuracy_isRounding (mantissa_mul_pos e hm) ?_ hplace
  rw [hscaled]
  exact represents_ofMantissaAndAccuracy_exact _

theorem decreaseExponent_mul {m : ℕ} {d t : ℤ} (h : t ≤ d) :
    ((decreaseExponent m d t).1 : ℚ) * 2 ^ t = m * 2 ^ d := by
  have hk : ((d - t).toNat : ℤ) = d - t := Int.toNat_of_nonneg (sub_nonneg.2 h)
  have hmant : (decreaseExponent m d t).1 = m <<< (d - t).toNat := rfl
  rw [hmant, cast_shiftLeft, hk, mul_assoc, ← zpow_add₀ two_ne_zero, sub_add_cancel]

theorem normalize_of_pos {m : ℕ} (e : ℤ) (s : Sign) (hm : 0 < m) :
    UnpackedFloat.normalize Format.binary64 m e s =
      UnpackedFloat.round Format.binary64 .positive m e := by
  have hcompare : compare (m : ℤ) 0 = .gt := compare_gt_iff_gt.2 (by exact_mod_cast hm)
  unfold UnpackedFloat.normalize
  rw [hcompare, Int.toNat_natCast]

theorem isRounding_add {m n : ℕ} {d e : ℤ} (hm : 0 < m) (hn : 0 < n) :
    IsRounding .positive ((m : ℚ) * 2 ^ d + n * 2 ^ e)
      (UnpackedFloat.add Format.binary64 (.finite .positive m d hm)
        (.finite .positive n e hn)) := by
  let m' := (decreaseExponent m d (min d e)).1
  let n' := (decreaseExponent n e (min d e)).1
  have hsum : (m : ℚ) * 2 ^ d + n * 2 ^ e = ((m' + n' : ℕ) : ℚ) * 2 ^ min d e := by
    rw [Nat.cast_add, add_mul, decreaseExponent_mul (min_le_left d e),
      decreaseExponent_mul (min_le_right d e)]
  have hpos : 0 < m' + n' := by
    have h : (0 : ℚ) < ((m' + n' : ℕ) : ℚ) * 2 ^ min d e :=
      hsum ▸ add_pos (mantissa_mul_pos d hm) (mantissa_mul_pos e hn)
    exact_mod_cast (mul_pos_iff_of_pos_right (two_zpow_pos _)).1 h
  have hadd : UnpackedFloat.add Format.binary64 (.finite .positive m d hm)
      (.finite .positive n e hn) = UnpackedFloat.round Format.binary64 .positive (m' + n')
        (min d e) := by
    rw [← normalize_of_pos _ .positive hpos, Nat.cast_add]
    rfl
  rw [hsum, hadd]
  exact isRounding_round .positive hpos

theorem add_eq_pack (x y : Float) :
    x + y = .ofModel (Float.Model.pack
      (UnpackedFloat.add Format.binary64 x.toModel.unpack y.toModel.unpack)) := rfl

theorem IsAmount.pack_unpack {x : Float} {a : WithTop ℚ} (h : IsAmount x a) :
    IsAmount (.ofModel (Float.Model.pack x.toModel.unpack)) (rounded a) := by
  rwa [pack_unpack_toModel, h.rounded_eq]

theorem isAmount_add_of_exactValue? {x y : Float} {a b : ℚ} (hx : exactValue? x = some a)
    (hy : exactValue? y = some b) (ha : 0 ≤ a) (hb : 0 ≤ b) :
    IsAmount (x + y) (rounded ((a + b : ℚ) : WithTop ℚ)) := by
  have hx' : IsAmount x a := .finite hx ha
  have hy' : IsAmount y b := .finite hy hb
  rw [add_eq_pack]
  cases nonneg_of_exactValue? hx ha with
  | zero s hu hva =>
    rw [hva, zero_add]
    cases nonneg_of_exactValue? hy hb with
    | zero s' hu' hvb =>
      rw [hu, hu', hvb]
      cases s <;> cases s' <;> exact isAmount_pack_zero _
    | positive n e hn hu' hshape' hmax' hvb =>
      -- zero is left out before anything is rounded
      have h := hy'.pack_unpack
      rw [hu'] at h
      rwa [hu, hu']
  | positive m d hm hu hshape hmax hva =>
    cases nonneg_of_exactValue? hy hb with
    | zero s' hu' hvb =>
      have h := hx'.pack_unpack
      rw [hu] at h
      rwa [hu, hu', hvb, add_zero]
    | positive n e hn hu' hshape' hmax' hvb =>
      rw [hu, hu', hva, hvb]
      exact isAmount_of_isRounding (isRounding_add hm hn)

theorem IsAmount.add {x y : Float} {a b : WithTop ℚ} (hx : IsAmount x a) (hy : IsAmount y b) :
    IsAmount (x + y) (rounded (a + b)) := by
  cases hx with
  | infinite hu =>
    rw [WithTop.top_add, add_eq_pack, hu]
    cases hy with
    | infinite hu' => rw [hu']; exact isAmount_pack_infinity
    | finite hv hb =>
      cases nonneg_of_exactValue? hv hb with
      | zero s hu' hvb => rw [hu']; exact isAmount_pack_infinity
      | positive n e hn hu' hshape hmax hvb => rw [hu']; exact isAmount_pack_infinity
  | finite hv ha =>
    cases hy with
    | infinite hu' =>
      rw [WithTop.add_top, add_eq_pack, hu']
      cases nonneg_of_exactValue? hv ha with
      | zero s hu hva => rw [hu]; exact isAmount_pack_infinity
      | positive m d hm hu hshape hmax hva => rw [hu]; exact isAmount_pack_infinity
    | finite hv' hb => exact isAmount_add_of_exactValue? hv hv' ha hb

theorem IsAmount.le_add {x y : Float} {a b : WithTop ℚ} (hx : IsAmount x a) (hy : IsAmount y b) :
    x ≤ x + y := by
  rw [hx.le_iff (hx.add hy)]
  calc
    a = rounded a := hx.rounded_eq.symm
    _ ≤ rounded (a + b) := rounded_mono hx.zero_le (le_add_of_nonneg_right hy.zero_le)

theorem IsAmount.le_add_left {x y : Float} {a b : WithTop ℚ} (hx : IsAmount x a)
    (hy : IsAmount y b) : y ≤ x + y := by
  rw [hy.le_iff (hx.add hy)]
  calc
    b = rounded b := hy.rounded_eq.symm
    _ ≤ rounded (a + b) := rounded_mono hy.zero_le (le_add_of_nonneg_left hx.zero_le)

theorem isFinite_add {x y : Float} {a b : ℚ} (hx : exactValue? x = some a)
    (hy : exactValue? y = some b) (ha : 0 ≤ a) (hb : 0 ≤ b) (hlt : b < 2 ^ (971 : ℤ) / 2) :
    (x + y).isFinite = true := by
  have hle : nearestDouble (a + b) ≤ greatestDouble := by
    calc
      nearestDouble (a + b) ≤ nearestDouble (greatestDouble + b) :=
        nearestDouble_mono (add_nonneg ha hb) (add_le_add (le_greatestDouble hx ha) le_rfl)
      _ = greatestDouble := canonical_greatest.nearestDouble_add_eq (by decide) hb hlt
  have hfit : nearestDouble (a + b) < 2 ^ 1024 :=
    hle.trans_lt (canonical_greatest.lt_two_pow le_rfl)
  have hsum := isAmount_add_of_exactValue? hx hy ha hb
  rw [rounded_coe, if_pos hfit] at hsum
  rw [← isSome_exactValue?, hsum.exactValue?_eq]
  rfl

end Sum

end RoutingCosts
