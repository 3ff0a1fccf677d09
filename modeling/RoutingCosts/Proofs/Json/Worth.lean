import RoutingCosts.Proofs.Json.Numeral
import RoutingCosts.Proofs.Number.Exact

/-!
# What a number is worth

A number is worth as many of its digits as fit 64 bits, rounded, times or over a rounded power of
ten, and rounded again. That is said here of rational numbers; the reader works it out in doubles.
Where the digits and the power of ten are doubles, only the last step rounds.
-/

set_option autoImplicit false

open Float.Model
open Float.Model.UnpackedFloat hiding round

namespace RoutingCosts.Json

namespace Numeral

section Worth

/-- As many of the digits as fit 64 bits where they follow a number. -/
structure IsCut (s : ℕ) (ds kept : List Char) : Prop where
  start : kept <+: ds
  fits : Nat.ofDigitChars 10 kept s < 2 ^ 64
  longest : ∀ ds', ds' <+: ds → Nat.ofDigitChars 10 ds' s < 2 ^ 64 → ds'.length ≤ kept.length

/-- The digits that are kept, as a number, and the power of ten that goes with it. Digits before the
    point that are not kept count as powers of ten, those after it as nothing. -/
inductive Keeps (n : Numeral) : ℕ → ℤ → Prop
  | digits {ds es : List Char} (whole : IsCut 0 n.whole ds)
      (fraction : IsCut (Nat.ofDigitChars 10 ds 0) n.fraction es) :
      Keeps n (Nat.ofDigitChars 10 (ds ++ es) 0)
        (n.power + (n.whole.length - ds.length : ℕ) - es.length)

/-- A number over `10 ^ k`, rounded. Powers of ten beyond the doubles are gone down in steps. -/
def quotient (q : ℚ) (k : ℕ) : ℚ :=
  if k ≤ 308 then nearestDouble (q / nearestDouble (10 ^ k))
  else quotient (nearestDouble (q / nearestDouble (10 ^ 308))) (k - 308)
termination_by k

/-- The number that a numeral is read as. One beyond the doubles is worth nothing. -/
inductive IsWorth (n : Numeral) : ℚ → Prop
  | up {m k : ℕ} (keeps : n.Keeps m k)
      (inRange : nearestDouble (nearestDouble m * nearestDouble (10 ^ k)) < 2 ^ 1024) :
      IsWorth n (nearestDouble (nearestDouble m * nearestDouble (10 ^ k)))
  | down {m k : ℕ} (keeps : n.Keeps m (-k)) (positive : 0 < k) :
      IsWorth n (quotient (nearestDouble m) k)

end Worth

section Digits

variable {n : Numeral} {s m : ℕ} {e : ℤ} {ds kept : List Char}

theorem le_ofDigitChars (ds : List Char) (s : ℕ) : s ≤ Nat.ofDigitChars 10 ds s := by
  induction ds generalizing s with
  | nil => exact le_rfl
  | cons d ds ih =>
    rw [Nat.ofDigitChars_cons]
    exact le_trans (by omega) (ih _)

theorem IsCut.gather_eq (h : IsCut s ds kept) :
    gather s ds = (Nat.ofDigitChars 10 kept s, kept.length) := by
  induction ds generalizing s kept with
  | nil =>
    rw [List.prefix_nil.1 h.start]
    rfl
  | cons d ds ih =>
    have hnext : s * 10 + (d.toNat - '0'.toNat) = Nat.ofDigitChars 10 [d] s := by
      rw [Nat.mul_comm]
      rfl
    have hcons (ds' : List Char) : Nat.ofDigitChars 10 (d :: ds') s =
        Nat.ofDigitChars 10 ds' (Nat.ofDigitChars 10 [d] s) := rfl
    have hlongest := h.longest [d] (List.cons_prefix_cons.2 ⟨rfl, List.nil_prefix⟩)
    rcases List.prefix_cons_iff.1 h.start with rfl | ⟨kept, rfl, hstart⟩
    · have hover : ¬ Nat.ofDigitChars 10 [d] s < UInt64.size := fun hfit =>
        absurd (hlongest hfit) (Nat.not_succ_le_zero _)
      simp only [gather, hnext, hover, if_false]
      rfl
    · have hfits := h.fits
      rw [hcons] at hfits
      have hfit : Nat.ofDigitChars 10 [d] s < UInt64.size := (le_ofDigitChars _ _).trans_lt hfits
      have hrest : IsCut (Nat.ofDigitChars 10 [d] s) ds kept :=
        ⟨hstart, hfits, fun ds' hds' hfit' => Nat.le_of_succ_le_succ
          (h.longest (d :: ds') (List.cons_prefix_cons.2 ⟨rfl, hds'⟩) hfit')⟩
      simp only [gather, hnext, hfit, if_true, ih hrest, List.length_cons]
      rfl

theorem exists_isCut (hs : s < 2 ^ 64) (ds : List Char) : ∃ kept, IsCut s ds kept := by
  induction ds generalizing s with
  | nil => exact ⟨[], List.nil_prefix, hs, fun ds' hds' _ => hds'.length_le⟩
  | cons d ds ih =>
    by_cases hfit : Nat.ofDigitChars 10 [d] s < 2 ^ 64
    · obtain ⟨kept, hstart, hfits, hlongest⟩ := ih hfit
      refine ⟨d :: kept, List.cons_prefix_cons.2 ⟨rfl, hstart⟩, hfits, fun ds' hds' hfit' => ?_⟩
      rcases List.prefix_cons_iff.1 hds' with rfl | ⟨ds', rfl, hrest⟩
      · exact Nat.zero_le _
      · exact Nat.succ_le_succ (hlongest ds' hrest hfit')
    · refine ⟨[], List.nil_prefix, hs, fun ds' hds' hfit' => ?_⟩
      rcases List.prefix_cons_iff.1 hds' with rfl | ⟨ds', rfl, -⟩
      · exact le_rfl
      · exact absurd ((le_ofDigitChars ds' _).trans_lt hfit') hfit

theorem isCut_self (h : Nat.ofDigitChars 10 ds s < 2 ^ 64) : IsCut s ds ds :=
  ⟨List.prefix_rfl, h, fun _ hds' _ => hds'.length_le⟩

theorem exists_keeps (n : Numeral) : ∃ m e, n.Keeps m e := by
  obtain ⟨whole, hwhole⟩ := exists_isCut (s := 0) (by decide) n.whole
  obtain ⟨fraction, hfraction⟩ := exists_isCut hwhole.fits n.fraction
  exact ⟨_, _, .digits hwhole hfraction⟩

theorem Keeps.lt (h : n.Keeps m e) : m < 2 ^ 64 := by
  cases h with
  | digits whole fraction =>
    rw [Nat.ofDigitChars_append]
    exact fraction.fits

theorem Keeps.value?_eq (h : n.Keeps m e) : n.value? = scale? m.toUInt64.toFloat e := by
  cases h with
  | digits whole fraction =>
    simp only [value?, whole.gather_eq, fraction.gather_eq, Nat.ofDigitChars_append]

end Digits

section Scale

variable {x : Float} {q : ℚ} {k : ℕ}

theorem ofFloat_powerOfTen : ∀ k < 23,
    Binary.ofFloat (powerOfTen k) = .finite false (10 ^ k * 2 ^ 52 / 2 ^ (10 ^ k).log2)
        ((10 ^ k).log2 - 52 : ℤ) ∧
      2 ^ (10 ^ k).log2 ∣ 10 ^ k * 2 ^ 52 := by
  decide +kernel

theorem exactValue?_powerOfTen_of_lt (h : k < 23) : exactValue? (powerOfTen k) = some (10 ^ k) := by
  obtain ⟨hfloat, hdvd⟩ := ofFloat_powerOfTen k h
  have hlog : (2 : ℚ) ^ (10 ^ k).log2 ≠ 0 := pow_ne_zero _ two_ne_zero
  rw [exactValue?, hfloat]
  simp only [Binary.value?, Bool.false_eq_true, if_false, Option.some.injEq]
  rw [Nat.cast_div hdvd (by exact_mod_cast hlog), zpow_sub₀ two_ne_zero, zpow_natCast]
  push_cast
  field_simp

theorem powerOfTen_eq_pack (hlo : 23 ≤ k) (hhi : k ≤ 308) :
    powerOfTen k = .ofModel (Float.Model.pack
      (roundWithAccuracy Format.binary64 .positive (1 <<< 53 * 10 ^ k) (-53) .exact)) := by
  have hlarge : ¬ (1 < 2 ^ 53 ∧ k ≤ 22) := by omega
  have hover : ¬ (Int.ofNat k > 2 ^ Format.binary64.exponentBits) :=
    not_lt.2 ((Int.ofNat_le.2 hhi).trans (by decide))
  have hunder : ¬ (Int.ofNat k < -(2 ^ Format.binary64.exponentBits + ((1 : ℕ).log2 : ℤ))) :=
    not_lt.2 ((by decide : (_ : ℤ) ≤ 0).trans (Int.natCast_nonneg k))
  have hnonneg : 0 ≤ Int.ofNat k := Int.natCast_nonneg k
  rw [powerOfTen, Float.ofScientific, dif_neg hlarge]
  simp only [Float.Model.ofScientific, UnpackedFloat.ofScientific, one_ne_zero,
    Bool.false_eq_true, if_false, hover, hunder, hnonneg, if_true]
  rfl

theorem exactValue?_powerOfTen (h : k ≤ 308) :
    exactValue? (powerOfTen k) = some (nearestDouble (10 ^ k)) := by
  rcases lt_or_ge k 23 with hsmall | hlarge
  · have hvalue := exactValue?_powerOfTen_of_lt hsmall
    rw [(nearestDouble_of_exactValue? hvalue (by positivity)).1, hvalue]
  · have hscaled : (10 : ℚ) ^ k / (2 : ℚ) ^ (-53 : ℤ) = ((1 <<< 53 * 10 ^ k : ℕ) : ℚ) := by
      push_cast
      norm_num
      ring
    have hplace : (2 : ℚ) ^ (52 + -53 : ℤ) ≤ 10 ^ k :=
      (by norm_num : (2 : ℚ) ^ (52 + -53 : ℤ) ≤ 1).trans (one_le_pow₀ (by norm_num))
    have hround : IsRounding .positive (10 ^ k)
        (roundWithAccuracy Format.binary64 .positive (1 <<< 53 * 10 ^ k) (-53) .exact) := by
      refine roundWithAccuracy_isRounding (by positivity) ?_ (le_lastPlace_of_two_zpow_le hplace)
      rw [hscaled]
      exact represents_ofMantissaAndAccuracy_exact _
    have hpow : 10 ^ k ≤ 10 ^ 308 := pow_le_pow_right₀ (by decide) h
    have hbound := natCast_le_greatestDouble hpow
    rw [Nat.cast_pow, Nat.cast_ofNat] at hbound
    have hamount := isAmount_of_isRounding hround
    rw [rounded_coe, if_pos (nearestDouble_lt_two_pow (by positivity) hbound),
      ← powerOfTen_eq_pack hlarge h] at hamount
    exact hamount.exactValue?_eq

theorem one_le_nearestDouble {q : ℚ} (h : 1 ≤ q) : 1 ≤ nearestDouble q := by
  have hone := nearestDouble_of_places (n := 1) (k := 0) (by decide) (by decide)
  rw [Nat.cast_one, zpow_zero, mul_one] at hone
  exact hone.symm.le.trans (nearestDouble_mono zero_le_one h)

theorem one_le_nearestDouble_powerOfTen (k : ℕ) : 1 ≤ nearestDouble (10 ^ k) :=
  one_le_nearestDouble (one_le_pow₀ (by norm_num))

theorem two_pow_le_nearestDouble {q : ℚ} (h : 2 ^ 1024 ≤ q) : 2 ^ 1024 ≤ nearestDouble q := by
  have htwo := nearestDouble_of_places (n := 1) (k := (1024 : ℕ)) (by decide) (by decide)
  rw [Nat.cast_one, one_mul, zpow_natCast] at htwo
  exact htwo.symm.le.trans (nearestDouble_mono (pow_pos two_pos 1024).le h)

theorem two_pow_le_nearestDouble_powerOfTen (h : 308 < k) : 2 ^ 1024 ≤ nearestDouble (10 ^ k) := by
  have hnext : 2 ^ 1024 ≤ 10 ^ 309 := by decide +kernel
  have hpow : 10 ^ 309 ≤ 10 ^ k := pow_le_pow_right₀ (by decide) h
  have hle : 2 ^ 1024 ≤ 10 ^ k := hnext.trans hpow
  exact two_pow_le_nearestDouble (by exact_mod_cast hle)

theorem quotient_zero (k : ℕ) : quotient 0 k = 0 := by
  induction k using Nat.strong_induction_on with
  | _ k ih =>
    rw [quotient]
    simp only [zero_div, nearestDouble_zero]
    split_ifs with hk
    · rfl
    · exact ih (k - 308) (by omega)

theorem isPlain_scaleDown (h : IsPlain x q) : IsPlain (scaleDown x k) (quotient q k) := by
  induction k using Nat.strong_induction_on generalizing x q with
  | _ k ih =>
    rw [scaleDown, quotient]
    split_ifs with hk hzero
    · exact h.div (exactValue?_powerOfTen hk) (one_le_nearestDouble_powerOfTen k)
    · obtain rfl := h.beq_zero_iff.1 hzero
      rwa [zero_div, nearestDouble_zero, quotient_zero]
    · exact ih (k - 308) (by omega)
        (h.div (exactValue?_powerOfTen le_rfl) (one_le_nearestDouble_powerOfTen 308))

theorem scale?_ofNat (h : IsPlain x q) (hq : q = 0 ∨ 1 ≤ q) :
    if nearestDouble (q * nearestDouble (10 ^ k)) < 2 ^ 1024 then
      ∃ y, scale? x k = some y ∧ IsPlain y (nearestDouble (q * nearestDouble (10 ^ k)))
    else scale? x k = none := by
  rcases le_or_gt k 308 with hk | hk
  · have hmul := h.mul (exactValue?_powerOfTen hk)
      (one_pos.trans_le (one_le_nearestDouble_powerOfTen k))
    split_ifs at hmul ⊢ with hfit
    · have hinf : (x * powerOfTen k).isInf = false := by
        rw [Bool.eq_false_iff, Ne, hmul.isAmount.isInf_iff]
        exact WithTop.coe_ne_top
      exact ⟨_, by simp [scale?, hk, hinf], hmul⟩
    · simp [scale?, hk, hmul]
  · rcases hq with rfl | hq
    · have hzero := h.beq_zero_iff.2 rfl
      rw [zero_mul, nearestDouble_zero, if_pos (pow_pos two_pos 1024)]
      exact ⟨x, by simp [scale?, hk, hzero], h⟩
    · have hzero : (x == 0) = false := by
        rw [Bool.eq_false_iff, Ne, h.beq_zero_iff]
        exact (one_pos.trans_le hq).ne'
      have hpow := two_pow_le_nearestDouble_powerOfTen hk
      have hover : 2 ^ 1024 ≤ nearestDouble (q * nearestDouble (10 ^ k)) :=
        two_pow_le_nearestDouble (hpow.trans (le_mul_of_one_le_left
          (zero_le_one.trans (one_le_nearestDouble_powerOfTen k)) hq))
      rw [if_neg (not_lt.2 hover)]
      simp [scale?, hk, hzero]

end Scale

section Value

variable {n : Numeral} {m : ℕ} {e : ℤ} {x : Float} {q : ℚ}

theorem Keeps.isPlain (h : n.Keeps m e) : IsPlain m.toUInt64.toFloat (nearestDouble m) := by
  have hword : m.toUInt64.toNat = m := UInt64.toNat_ofNat_of_lt h.lt
  have hplain := isPlain_toFloat m.toUInt64
  rwa [hword] at hplain

theorem nearestDouble_natCast (m : ℕ) : nearestDouble m = 0 ∨ 1 ≤ nearestDouble (m : ℚ) := by
  rcases Nat.eq_zero_or_pos m with rfl | hm
  · rw [Nat.cast_zero]
    exact .inl nearestDouble_zero
  · exact .inr (one_le_nearestDouble (by exact_mod_cast hm))

theorem IsWorth.exists_value? (h : n.IsWorth q) : ∃ x, n.value? = some x ∧ IsPlain x q := by
  cases h with
  | @up m k keeps inRange =>
    have hscale := scale?_ofNat (k := k) keeps.isPlain (nearestDouble_natCast m)
    rw [if_pos inRange] at hscale
    rwa [keeps.value?_eq]
  | @down m k keeps positive =>
    obtain ⟨k, rfl⟩ := Nat.exists_eq_succ_of_ne_zero positive.ne'
    exact ⟨_, keeps.value?_eq, isPlain_scaleDown keeps.isPlain⟩

theorem IsWorth.unique {r : ℚ} (h : n.IsWorth q) (h' : n.IsWorth r) : q = r := by
  obtain ⟨x, hx, hplain⟩ := h.exists_value?
  obtain ⟨y, hy, hplain'⟩ := h'.exists_value?
  obtain rfl : x = y := Option.some_injective _ (hx.symm.trans hy)
  exact Option.some_injective _ (hplain.value.symm.trans hplain'.value)

/-- The reader finds what a numeral is worth, and nothing where it is worth nothing. -/
theorem value?_eq_some_iff : n.value? = some x ↔ ∃ q, n.IsWorth q ∧ IsPlain x q := by
  constructor
  · intro hvalue
    obtain ⟨m, e, hkeeps⟩ := exists_keeps n
    rw [hkeeps.value?_eq] at hvalue
    cases e with
    | ofNat k =>
      have hscale := scale?_ofNat (k := k) hkeeps.isPlain (nearestDouble_natCast m)
      split_ifs at hscale with hfit
      · obtain ⟨y, hy, hplain⟩ := hscale
        obtain rfl : y = x := Option.some_injective _ (hy.symm.trans hvalue)
        exact ⟨_, .up hkeeps hfit, hplain⟩
      · cases hscale.symm.trans hvalue
    | negSucc k =>
      obtain rfl := Option.some_injective _ hvalue
      exact ⟨_, .down (k := k + 1) hkeeps (Nat.succ_pos k), isPlain_scaleDown hkeeps.isPlain⟩
  · rintro ⟨q, hworth, hplain⟩
    obtain ⟨y, hy, hplain'⟩ := hworth.exists_value?
    rw [hy, hplain'.eq hplain]

end Value

section Nearest

variable {n : Numeral}

def significand (n : Numeral) : ℕ := Nat.ofDigitChars 10 (n.whole ++ n.fraction) 0

/-- The power of ten that the last digit counts. -/
def exponent (n : Numeral) : ℤ := n.power - n.fraction.length

/-- The number that a numeral stands for. -/
def exact (n : Numeral) : ℚ := n.significand * 10 ^ n.exponent

theorem keeps_significand (h : n.significand < 2 ^ 64) : n.Keeps n.significand n.exponent := by
  have happend : n.significand =
      Nat.ofDigitChars 10 n.fraction (Nat.ofDigitChars 10 n.whole 0) :=
    Nat.ofDigitChars_append 0
  have hkeeps : n.Keeps _ _ :=
    .digits (isCut_self ((happend ▸ le_ofDigitChars n.fraction _).trans_lt h))
      (isCut_self (happend ▸ h))
  have hpower : n.power + (n.whole.length - n.whole.length : ℕ) - (n.fraction.length : ℤ) =
      n.exponent := by
    rw [Nat.sub_self, Nat.cast_zero, add_zero, exponent]
  rwa [hpower] at hkeeps

theorem nearestDouble_of_lt {m : ℕ} (h : m < 2 ^ 53) : nearestDouble m = m := by
  have hplaces := nearestDouble_of_places (k := 0) h (by decide)
  rwa [zpow_zero, mul_one] at hplaces

/-- A numeral is worth the nearest double if its digits and its power of ten are doubles. -/
theorem isWorth_nearest (hsmall : n.significand < 2 ^ 53) (hexponent : n.exponent.natAbs ≤ 22) :
    n.IsWorth (nearestDouble n.exact) := by
  have hkeeps := keeps_significand (hsmall.trans (by decide))
  have hten {k : ℕ} (hk : k < 23) : nearestDouble ((10 : ℚ) ^ k) = 10 ^ k :=
    (nearestDouble_of_exactValue? (exactValue?_powerOfTen_of_lt hk) (by positivity)).1
  cases he : n.exponent with
  | ofNat k =>
    rw [he] at hkeeps hexponent
    have hk : k < 23 := Nat.lt_succ_of_le hexponent
    have hexact : nearestDouble n.significand * nearestDouble (10 ^ k) = n.exact := by
      rw [exact, he, nearestDouble_of_lt hsmall, hten hk, Int.ofNat_eq_natCast, zpow_natCast]
    have hnat : n.exact = (n.significand * 10 ^ k : ℕ) := by
      rw [exact, he, Int.ofNat_eq_natCast, zpow_natCast, Nat.cast_mul, Nat.cast_pow, Nat.cast_ofNat]
    have hbound : n.significand * 10 ^ k ≤ 10 ^ 308 := by
      calc
        n.significand * 10 ^ k ≤ 2 ^ 53 * 10 ^ 22 :=
          Nat.mul_le_mul hsmall.le (pow_le_pow_right₀ (by decide) hexponent)
        _ ≤ 10 ^ 308 := by decide +kernel
    have hfit : nearestDouble n.exact < 2 ^ 1024 := by
      rw [hnat]
      exact nearestDouble_lt_two_pow (Nat.cast_nonneg _) (natCast_le_greatestDouble hbound)
    have hup : n.IsWorth _ := .up hkeeps (by rwa [hexact])
    rwa [hexact] at hup
  | negSucc k =>
    rw [he] at hkeeps hexponent
    have hk : k + 1 < 23 := Nat.lt_succ_of_le hexponent
    have hexact : nearestDouble n.significand / nearestDouble (10 ^ (k + 1)) = n.exact := by
      rw [exact, he, nearestDouble_of_lt hsmall, hten hk, zpow_negSucc, div_eq_mul_inv]
    have hdown : n.IsWorth _ := .down (k := k + 1) hkeeps (Nat.succ_pos k)
    rwa [quotient, if_pos (by omega), hexact] at hdown

end Nearest

end Numeral

section Number

variable {x : Float} {cs : List Char}

/-- The text is a number in range, and the double is what it is read as. -/
inductive IsNumber : Float → List Char → Prop
  | unsigned {n : Numeral} {x : Float} {q : ℚ} {cs : List Char} (written : n.IsWritten cs)
      (worth : n.IsWorth q) (plain : IsPlain x q) : IsNumber x cs
  | negative {n : Numeral} {x : Float} {q : ℚ} {cs : List Char} (written : n.IsWritten cs)
      (worth : n.IsWorth q) (plain : IsPlain x q) : IsNumber (-x) ('-' :: cs)

theorem IsNumber.isNumeral (h : IsNumber x cs) : IsNumeral cs := by
  cases h with
  | unsigned written => exact .unsigned written
  | negative written => exact .negative written

theorem isNumber_of_value? {n : Numeral} (written : n.IsWritten cs) (value : n.value? = some x) :
    IsNumber x cs ∧ IsNumber (-x) ('-' :: cs) := by
  obtain ⟨q, worth, plain⟩ := Numeral.value?_eq_some_iff.1 value
  exact ⟨.unsigned written worth plain, .negative written worth plain⟩

theorem signedNumber_of_isDigit {d : Char} (h : d.isDigit = true) (cs : List Char) :
    signedNumber (d :: cs) = unsignedNumber (d :: cs) := by
  unfold signedNumber
  split
  · rename_i heq
    rw [List.cons.injEq] at heq
    rw [heq.1] at h
    exact absurd h (by decide)
  · rfl

theorem unsignedNumber_eq {n : Numeral} (written : n.IsWritten cs) {rest : List Char}
    (hrest : endsNumber rest = true) : unsignedNumber (cs ++ rest) =
      match n.value? with
      | some x => .ok (x, rest)
      | none => .error .malformed := by
  cases hvalue : n.value? <;> simp [unsignedNumber, written.read_eq hrest, hvalue]

theorem signedNumber_eq_unsignedNumber {n : Numeral} (written : n.IsWritten cs)
    (rest : List Char) : signedNumber (cs ++ rest) = unsignedNumber (cs ++ rest) := by
  obtain ⟨d, tail, rfl, hd⟩ := written.exists_isDigit
  exact signedNumber_of_isDigit hd _

theorem IsNumber.signedNumber_eq (h : IsNumber x cs) {rest : List Char}
    (hrest : endsNumber rest = true) : signedNumber (cs ++ rest) = .ok (x, rest) := by
  have hvalue {n : Numeral} {y : Float} {q : ℚ} (worth : n.IsWorth q) (plain : IsPlain y q) :
      n.value? = some y := Numeral.value?_eq_some_iff.2 ⟨q, worth, plain⟩
  cases h with
  | unsigned written worth plain =>
    rw [signedNumber_eq_unsignedNumber written, unsignedNumber_eq written hrest,
      hvalue worth plain]
  | negative written worth plain =>
    simp only [List.cons_append, signedNumber, unsignedNumber_eq written hrest,
      hvalue worth plain, Except.map]

theorem not_isNumber_of_value? {n : Numeral} (written : n.IsWritten cs) (value : n.value? = none) :
    ¬ IsNumber x cs := by
  intro h
  have hread : signedNumber (cs ++ []) = .ok (x, []) := h.signedNumber_eq rfl
  rw [signedNumber_eq_unsignedNumber written, unsignedNumber_eq written rfl, value] at hread
  cases hread

theorem IsNumeral.signedNumber_eq (h : IsNumeral cs) (hrange : ∀ x, ¬ IsNumber x cs)
    {rest : List Char} (hrest : endsNumber rest = true) :
    signedNumber (cs ++ rest) = .error .malformed := by
  cases h with
  | @unsigned n cs written =>
    have hvalue : n.value? = none := Option.eq_none_iff_forall_ne_some.2 fun x hx =>
      hrange x (isNumber_of_value? written hx).1
    rw [signedNumber_eq_unsignedNumber written, unsignedNumber_eq written hrest, hvalue]
  | @negative n cs written =>
    have hvalue : n.value? = none := Option.eq_none_iff_forall_ne_some.2 fun x hx =>
      hrange (-x) (isNumber_of_value? written hx).2
    simp only [List.cons_append, signedNumber, unsignedNumber_eq written hrest, hvalue,
      Except.map]

theorem IsNumeral.run_number (h : IsNumeral cs) {ws : List Char} (hws : IsBlanks ws)
    (rest : List Char) : Reader.number.run (ws ++ (cs ++ rest)) = signedNumber (cs ++ rest) := by
  obtain ⟨d, tail, rfl, hd⟩ := h.exists_start
  have hblank : skipBlank (d :: tail ++ rest) = d :: (tail ++ rest) :=
    skipBlank_cons hd.isBlank_eq _
  simp only [Reader.number, readNumber, skipBlank_append hws, hblank]
  exact if_pos hd

theorem IsNumber.reads (h : IsNumber x cs) : Reader.number.Reads cs x := fun _ rest hws hrest =>
  (h.isNumeral.run_number hws rest).trans (h.signedNumber_eq hrest)

theorem IsNumber.reads_orNull (h : IsNumber x cs) :
    (Reader.orNull Reader.number).Reads cs (some x) :=
  .orNull h.reads (h.isNumeral.startsUnlike (by decide) rfl)

theorem IsNumeral.refuses_orNull (h : IsNumeral cs) (hrange : ∀ x, ¬ IsNumber x cs) :
    (Reader.orNull Reader.number).Refuses cs .malformed := by
  refine .orNull (fun ws rest hws hrest => ?_) (h.startsUnlike (by decide) rfl)
  exact (h.run_number hws rest).trans (h.signedNumber_eq hrange hrest)

end Number

end RoutingCosts.Json
