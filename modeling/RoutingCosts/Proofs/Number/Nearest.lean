import RoutingCosts.Proofs.Number.Packing
import RoutingCosts.Proofs.Number.Rounding

set_option autoImplicit false

open Float.Model Float.Model.UnpackedFloat

namespace RoutingCosts

/-- The mantissa is a number cut off below the point, and the bits tell what was cut off. -/
structure Represents (em : ExtendedMantissa) (x : ℚ) : Prop where
  le : (em.mantissa : ℚ) ≤ x
  lt : x < em.mantissa + 1
  round : em.roundBit = true ↔ em.mantissa + 1 / 2 ≤ x
  sticky : em.stickyBit = true ↔ x ≠ em.mantissa ∧ x ≠ em.mantissa + 1 / 2

namespace Represents

variable {em : ExtendedMantissa} {x : ℚ}

theorem floor (h : Represents em x) : ⌊x⌋ = em.mantissa :=
  Int.floor_eq_iff.2 ⟨by exact_mod_cast h.le, by exact_mod_cast h.lt⟩

theorem shiftRightOne (h : Represents em x) : Represents em.shiftRightOne (x / 2) := by
  obtain ⟨m, round, sticky⟩ := em
  obtain ⟨hle, hlt, hround, hsticky⟩ := h
  simp only at hle hlt hround hsticky
  have hdiv : (m : ℚ) = 2 * (m / 2 : ℕ) + (m % 2 : ℕ) := by exact_mod_cast (Nat.div_add_mod m 2).symm
  have hbit : ((round || sticky) = true) ↔ x ≠ m := by
    rw [Bool.or_eq_true, hround, hsticky]
    constructor
    · rintro (h | h)
      · linarith
      · exact h.1
    · intro h
      by_cases hx : x = m + 1 / 2
      · exact .inl hx.ge
      · exact .inr ⟨h, hx⟩
  rcases Nat.mod_two_eq_zero_or_one m with hr | hr
  · rw [hr, Nat.cast_zero, add_zero] at hdiv
    refine ⟨?_, ?_, ?_, ?_⟩ <;> simp only [ExtendedMantissa.shiftRightOne, hbit, hr]
    · linarith
    · linarith
    · simp
      linarith
    · constructor
      · intro h
        exact ⟨fun hk => h (by linarith), by linarith⟩
      · intro h hk
        exact h.1 (by linarith)
  · rw [hr, Nat.cast_one] at hdiv
    refine ⟨?_, ?_, ?_, ?_⟩ <;> simp only [ExtendedMantissa.shiftRightOne, hbit, hr]
    · linarith
    · linarith
    · simp
      linarith
    · constructor
      · intro h
        exact ⟨by linarith, fun hk => h (by linarith)⟩
      · intro h hk
        exact h.2 (by linarith)

theorem shiftRight (h : Represents em x) (n : ℕ) : Represents (em >>> n) (x / 2 ^ n) := by
  induction n with
  | zero =>
    rw [pow_zero, div_one]
    exact h
  | succ n ih =>
    rw [pow_succ, ← div_div]
    exact ih.shiftRightOne

theorem roundedMantissa (h : Represents em x) : (em.roundedMantissa : ℤ) = roundHalfEven x := by
  have hfloor := h.floor
  obtain ⟨m, round, sticky⟩ := em
  obtain ⟨hle, hlt, hround, hsticky⟩ := h
  simp only at hfloor hle hlt hround hsticky
  rw [roundHalfEven, hfloor, Int.cast_natCast]
  rcases lt_trichotomy x (m + 1 / 2) with hx | hx | hx
  · have hr : round = false := by
      rw [← Bool.not_eq_true, hround]
      exact not_le.2 hx
    rw [if_pos (by linarith), hr]
    cases sticky <;> rfl
  · have hr : round = true := hround.2 hx.ge
    have hs : sticky = false := by
      rw [← Bool.not_eq_true, hsticky]
      exact fun h => h.2 hx
    rw [if_neg (by linarith), if_neg (by linarith), hr, hs]
    exact_mod_cast rfl
  · have hr : round = true := hround.2 hx.le
    have hs : sticky = true := hsticky.2 ⟨by linarith, hx.ne'⟩
    rw [if_neg (by linarith), if_pos (by linarith), hr, hs]
    exact_mod_cast rfl

end Represents

/-- What comes out of rounding the positive number `x` under a sign. -/
inductive IsRounding (s : Sign) (x : ℚ) : UnpackedFloat → Prop
  | zero (value : nearestDouble x = 0) : IsRounding s x (.zero s)
  | finite {m : ℕ} {e : ℤ} (hm : 0 < m) (shape : Canonical m e)
      (value : nearestDouble x = m * 2 ^ e) : IsRounding s x (.finite s m e hm)

section Rounding

variable {s : Sign} {m : ℕ} {e : ℤ} {acc : Accuracy} {x : ℚ}

theorem targetExponent_binary64 (m : ℕ) (e : ℤ) :
    Format.binary64.targetExponent (totalExponent m e) = max (m.log2 + e - 52) (-1074) := by
  have hbits : (Format.mantissaBits Format.binary64 : ℤ) = 53 := rfl
  have hleast : Format.minExponent Format.binary64 = -1074 := rfl
  rw [Format.targetExponent, hbits, hleast, totalExponent]
  congr 1
  omega

theorem represents_ofMantissaAndAccuracy_exact (m : ℕ) :
    Represents (.ofMantissaAndAccuracy m .exact) m := by
  refine ⟨le_rfl, lt_add_one _, ?_, ?_⟩ <;> simp [ExtendedMantissa.ofMantissaAndAccuracy]

theorem shiftToTargetExponent_eq {t : ℤ}
    (ht : Format.binary64.targetExponent (totalExponent m e) = t) (he : e ≤ t) :
    shiftToTargetExponent Format.binary64 m e acc =
      (ExtendedMantissa.ofMantissaAndAccuracy m acc >>> (t - e).toNat, t) := by
  have hsum : e + ((t - e).toNat : ℤ) = t := by omega
  rw [shiftToTargetExponent, ht, shiftToExponent, hsum]

theorem log_eq_log2_add (hm : 0 < m) (hlo : m * 2 ^ e ≤ x) (hhi : x < (m + 1) * 2 ^ e) :
    Int.log 2 x = m.log2 + e := by
  apply log_eq_of_bounds
  · have h₁ : ((2 ^ m.log2 : ℕ) : ℚ) ≤ m := Nat.cast_le.2 (Nat.log2_self_le hm.ne')
    have h₂ : (2 : ℚ) ^ ((m.log2 : ℤ) + e) = (2 ^ m.log2 : ℕ) * 2 ^ e := by
      rw [zpow_add₀ two_ne_zero, zpow_natCast, Nat.cast_pow, Nat.cast_ofNat]
    rw [h₂]
    exact (mul_le_mul_of_nonneg_right h₁ (two_zpow_pos e).le).trans hlo
  · have h₁ : ((m + 1 : ℕ) : ℚ) ≤ (2 ^ (m.log2 + 1) : ℕ) := Nat.cast_le.2 Nat.lt_log2_self
    have h₂ : (2 : ℚ) ^ ((m.log2 : ℤ) + e + 1) = (2 ^ (m.log2 + 1) : ℕ) * 2 ^ e := by
      rw [add_right_comm, zpow_add₀ two_ne_zero, ← Nat.cast_succ, zpow_natCast, Nat.cast_pow,
        Nat.cast_ofNat]
    rw [h₂]
    push_cast at h₁ ⊢
    exact hhi.trans_le (mul_le_mul_of_nonneg_right h₁ (two_zpow_pos e).le)

theorem log_mantissa_mul (e : ℤ) (hm : 0 < m) : Int.log 2 ((m : ℚ) * 2 ^ e) = m.log2 + e :=
  log_eq_log2_add hm le_rfl (mul_lt_mul_of_pos_right (lt_add_one _) (two_zpow_pos e))

theorem targetExponent_eq_lastPlace (hx : 0 < x) (hlo : m * 2 ^ e ≤ x) (hhi : x < (m + 1) * 2 ^ e)
    (he : e ≤ lastPlace x) :
    Format.binary64.targetExponent (totalExponent m e) = lastPlace x := by
  rw [targetExponent_binary64]
  rcases Nat.eq_zero_or_pos m with hm | hm
  · -- then the number is below the least place of all
    have hlt : x < 2 ^ e := by simpa [hm] using hhi
    have hlog : Int.log 2 x < e :=
      (Int.lt_zpow_iff_log_lt (b := 2) one_lt_two hx).1 (by exact_mod_cast hlt)
    have hzero : Nat.log2 0 = 0 := rfl
    unfold lastPlace at he ⊢
    rw [hm, hzero]
    omega
  · rw [lastPlace, log_eq_log2_add hm hlo hhi]

theorem shiftToTargetExponent_of_lt (hm : m < 2 ^ 53) (he : -1074 ≤ e) :
    shiftToTargetExponent Format.binary64 m e .exact =
      (.ofMantissaAndAccuracy m .exact, e) := by
  have hlog : m.log2 ≤ 52 := by
    rcases Nat.eq_zero_or_pos m with h | h
    · rw [h]
      decide
    · exact Nat.le_of_lt_succ ((Nat.log2_lt h.ne').2 hm)
  have hshift : (max ((m.log2 : ℤ) + e - 52) (-1074) - e).toNat = 0 := by omega
  rw [shiftToTargetExponent, targetExponent_binary64, shiftToExponent, hshift, Nat.cast_zero,
    add_zero]
  rfl

theorem shiftToTargetExponent_carry (he : -1074 ≤ e) :
    shiftToTargetExponent Format.binary64 (2 ^ 53) e .exact =
      (.ofMantissaAndAccuracy (2 ^ 52) .exact, e + 1) := by
  have hlog : (2 ^ 53 : ℕ).log2 = 53 := Nat.log2_two_pow
  have hshift : (max (((2 ^ 53 : ℕ).log2 : ℤ) + e - 52) (-1074) - e).toNat = 1 := by
    rw [hlog]
    omega
  rw [shiftToTargetExponent, targetExponent_binary64, shiftToExponent, hshift]
  rfl

theorem roundWithAccuracy_eq {em em' : ExtendedMantissa} {e' e'' : ℤ}
    (h : shiftToTargetExponent Format.binary64 m e acc = (em, e'))
    (h' : shiftToTargetExponent Format.binary64 em.roundedMantissa e' .exact = (em', e'')) :
    roundWithAccuracy Format.binary64 s m e acc =
      if hm : em'.mantissa = 0 then .zero s
      else .finite s em'.mantissa e'' (Nat.pos_of_ne_zero hm) := by
  simp only [roundWithAccuracy, h, h']

/-- Rounding finds the nearest double, whatever exponent the exact number was given with, if it is
    not beyond the last place. -/
theorem roundWithAccuracy_isRounding (hx : 0 < x)
    (hrep : Represents (.ofMantissaAndAccuracy m acc) (x / 2 ^ e)) (he : e ≤ lastPlace x) :
    IsRounding s x (roundWithAccuracy Format.binary64 s m e acc) := by
  have hmant : (ExtendedMantissa.ofMantissaAndAccuracy m acc).mantissa = m := by
    cases acc with
    | exact => rfl
    | inexact o => cases o <;> rfl
  have hlo : m * 2 ^ e ≤ x := by
    have h := hrep.le
    rwa [hmant, le_div_iff₀ (two_zpow_pos e)] at h
  have hhi : x < (m + 1) * 2 ^ e := by
    have h := hrep.lt
    rwa [hmant, div_lt_iff₀ (two_zpow_pos e)] at h
  let em := ExtendedMantissa.ofMantissaAndAccuracy m acc >>> (lastPlace x - e).toNat
  have hem : Represents em (x / 2 ^ lastPlace x) := by
    have h := hrep.shiftRight (lastPlace x - e).toNat
    have hpow : (2 : ℚ) ^ e * 2 ^ (lastPlace x - e).toNat = 2 ^ lastPlace x := by
      rw [← zpow_natCast, ← zpow_add₀ two_ne_zero]
      congr 1
      omega
    rwa [div_div, hpow] at h
  have hround : nearestDouble x = em.roundedMantissa * 2 ^ lastPlace x := by
    rw [nearestDouble, ← hem.roundedMantissa, Int.cast_natCast]
  have hleast : -1074 ≤ lastPlace x := le_max_right _ _
  have hmax : em.roundedMantissa ≤ 2 ^ 53 := by
    have h := roundHalfEven_lastPlace_le x
    rw [← hem.roundedMantissa] at h
    exact_mod_cast h
  have hfull : lastPlace x = -1074 ∨ 2 ^ 52 ≤ em.roundedMantissa := by
    have h := le_roundHalfEven_lastPlace hx
    rw [← hem.roundedMantissa] at h
    exact_mod_cast h
  have hshift : shiftToTargetExponent Format.binary64 m e acc = (em, lastPlace x) :=
    shiftToTargetExponent_eq (targetExponent_eq_lastPlace hx hlo hhi he) he
  rcases hmax.lt_or_eq with hlt | heq
  · rw [roundWithAccuracy_eq hshift (shiftToTargetExponent_of_lt hlt hleast)]
    split
    · rename_i hzero
      have hn : em.roundedMantissa = 0 := hzero
      exact .zero (by rw [hround, hn, Nat.cast_zero, zero_mul])
    · exact .finite _ ⟨hlt, hleast, hfull⟩ hround
  · have hcarry := shiftToTargetExponent_carry hleast
    rw [← heq] at hcarry
    rw [roundWithAccuracy_eq hshift hcarry, dif_neg (by decide)]
    refine .finite _ ⟨by decide, by omega, .inr le_rfl⟩ ?_
    have hhalf : (ExtendedMantissa.ofMantissaAndAccuracy (2 ^ 52) .exact).mantissa = 2 ^ 52 := rfl
    rw [hround, heq, hhalf, zpow_add_one₀ two_ne_zero]
    push_cast
    ring

end Rounding

end RoutingCosts
