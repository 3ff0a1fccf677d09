import RoutingCosts.Proofs.Number.Sign

set_option autoImplicit false

open Float.Model
open Float.Model.UnpackedFloat hiding round

namespace RoutingCosts

section Conversion

theorem nearestDouble_of_places {n : ℕ} {k : ℤ} (hlt : n < 2 ^ 53) (hk : -1074 ≤ k) :
    nearestDouble ((n : ℚ) * 2 ^ k) = n * 2 ^ k := by
  rcases Nat.eq_zero_or_pos n with rfl | hn
  · rw [Nat.cast_zero, zero_mul, nearestDouble_zero]
  have hlog : n.log2 < 53 := (Nat.log2_lt hn.ne').2 hlt
  have hle : lastPlace ((n : ℚ) * 2 ^ k) ≤ k := by
    rw [lastPlace, log_mantissa_mul k hn]
    omega
  obtain ⟨z, hz⟩ := exists_two_zpow_eq hle
  have hint : (n : ℚ) * 2 ^ k / 2 ^ lastPlace ((n : ℚ) * 2 ^ k) = ((n * z : ℤ) : ℚ) := by
    rw [div_eq_iff (two_zpow_pos _).ne']
    nth_rewrite 1 [hz]
    push_cast
    ring
  rw [nearestDouble, hint, roundHalfEven_intCast, ← hint, div_mul_cancel₀ _ (two_zpow_pos _).ne']

theorem toFloat_eq_pack (w : UInt64) :
    w.toFloat = .ofModel (Float.Model.pack
      (UnpackedFloat.normalize Format.binary64 (w.toNat : ℤ) 0 .positive)) := rfl

theorem isAmount_toFloat (w : UInt64) :
    IsAmount w.toFloat (rounded ((w.toNat : ℚ) : WithTop ℚ)) := by
  rw [toFloat_eq_pack]
  rcases Nat.eq_zero_or_pos w.toNat with hw | hw
  · rw [hw, Nat.cast_zero]
    exact isAmount_pack_zero .positive
  · have hround := isAmount_of_isRounding (isRounding_round (e := 0) .positive hw)
    rw [zpow_zero, mul_one] at hround
    rw [normalize_of_pos 0 .positive hw]
    exact hround

theorem hasSign_toFloat (w : UInt64) : HasSign .positive w.toFloat := by
  rw [toFloat_eq_pack]
  rcases Nat.eq_zero_or_pos w.toNat with hw | hw
  · rw [hw]
    exact hasSign_pack_zero .positive
  · rw [normalize_of_pos 0 .positive hw]
    exact hasSign_of_isRounding (isRounding_round .positive hw)

end Conversion

section Injectivity

theorem eq_of_unpack {x y : Float} (h : x.toModel.unpack = y.toModel.unpack) : x = y := by
  rw [← pack_unpack_toModel x, h, pack_unpack_toModel]

theorem Canonical.eq_of_mul_eq {m n : ℕ} {d e : ℤ} (hm : Canonical m d) (hn : Canonical n e)
    (h : (m : ℚ) * 2 ^ d = n * 2 ^ e) : m = n ∧ d = e := by
  rcases lt_trichotomy d e with hlt | heq | hlt
  · exact absurd h (hm.lt_of_exponent_lt hn hlt).ne
  · subst heq
    have hmn := mul_right_cancel₀ (two_zpow_pos d).ne' h
    exact ⟨by exact_mod_cast hmn, rfl⟩
  · exact absurd h (hn.lt_of_exponent_lt hm hlt).ne'

theorem eq_of_exactValue? {x y : Float} {a : ℚ} (hx : exactValue? x = some a)
    (hy : exactValue? y = some a) (ha : 0 < a) : x = y := by
  cases nonneg_of_exactValue? hx ha.le with
  | zero s hu hva => exact absurd hva ha.ne'
  | positive m d hm hu hshape hmax hva =>
    cases nonneg_of_exactValue? hy ha.le with
    | zero s hu' hvb => exact absurd hvb ha.ne'
    | positive n e hn hu' hshape' hmax' hvb =>
      obtain ⟨rfl, rfl⟩ := hshape.eq_of_mul_eq hshape' (hva.symm.trans hvb)
      exact eq_of_unpack (hu.trans hu'.symm)

theorem neg_eq_pack (x : Float) : -x = .ofModel (Float.Model.pack x.toModel.unpack.neg) := rfl

theorem eq_neg_of_unpack {x y : Float} (h : x.toModel.unpack = y.toModel.unpack.neg) : x = -y := by
  rw [neg_eq_pack, ← h, pack_unpack_toModel]

theorem eq_of_ofFloat {x y : Float} {negative : Bool} {m : ℕ} {q : ℤ}
    (hx : Binary.ofFloat x = .finite negative m q) (hy : exactValue? y = some ((m : ℚ) * 2 ^ q))
    (hzero : m = 0 → y.toModel.unpack = .zero .positive) : x = if negative then -y else y := by
  unfold Binary.ofFloat at hx
  split at hx
  · cases hx
  · cases hx
  · rename_i s hu
    cases hx
    have huy := hzero rfl
    cases s with
    | positive => exact eq_of_unpack (hu.trans huy.symm)
    | negative =>
      refine eq_neg_of_unpack ?_
      rw [hu, huy]
      rfl
  · rename_i s m q hm hu
    cases hx
    have hpos := mantissa_mul_pos q hm
    cases s with
    | positive => exact eq_of_exactValue? (exactValue?_of_positive hu) hy hpos
    | negative =>
      refine eq_neg_of_unpack ?_
      cases nonneg_of_exactValue? hy hpos.le with
      | zero s hu' hvb => exact absurd hvb hpos.ne'
      | positive n e hn hu' hshape' hmax' hvb =>
        obtain ⟨rfl, rfl⟩ := (canonical_of_unpack hu).1.eq_of_mul_eq hshape' hvb
        rw [hu, hu']
        rfl

end Injectivity

section Plain

variable {x y : Float} {a b : ℚ}

/-- A finite double without a minus sign, and its value. -/
structure IsPlain (x : Float) (a : ℚ) : Prop where
  value : exactValue? x = some a
  sign : HasSign .positive x

theorem IsPlain.zero_or_pos (h : IsPlain x a) :
    x.toModel.unpack = .zero .positive ∧ a = 0 ∨ 0 < a := by
  have hvalue := h.value
  cases h.sign with
  | infinite hu =>
    rw [exactValue?, Binary.ofFloat, hu] at hvalue
    cases hvalue
  | zero hu =>
    rw [exactValue?_of_zero hu, Option.some.injEq] at hvalue
    exact .inl ⟨hu, hvalue.symm⟩
  | @finite m e hm hu =>
    rw [exactValue?_of_positive hu, Option.some.injEq] at hvalue
    exact .inr (hvalue ▸ mantissa_mul_pos e hm)

theorem IsPlain.nonneg (h : IsPlain x a) : 0 ≤ a := by
  rcases h.zero_or_pos with ⟨-, rfl⟩ | hpos
  · exact le_rfl
  · exact hpos.le

theorem IsPlain.isAmount (h : IsPlain x a) : IsAmount x a := .finite h.value h.nonneg

theorem IsPlain.eq (hx : IsPlain x a) (hy : IsPlain y a) : x = y := by
  rcases hx.zero_or_pos with ⟨hu, rfl⟩ | hpos
  · rcases hy.zero_or_pos with ⟨hu', -⟩ | hpos
    · exact eq_of_unpack (hu.trans hu'.symm)
    · exact absurd hpos (lt_irrefl 0)
  · exact eq_of_exactValue? hx.value hy.value hpos

theorem IsPlain.beq_zero_iff (h : IsPlain x a) : (x == 0) = true ↔ a = 0 := by
  constructor
  · intro hzero
    have hle := (le_of_float_beq hzero).1
    rw [h.isAmount.le_iff isAmount_zero] at hle
    exact le_antisymm (WithTop.coe_le_coe.1 hle) h.nonneg
  · rintro rfl
    rcases h.zero_or_pos with ⟨hu, -⟩ | hpos
    · change x.toModel.unpack.beq (0 : Float).toModel.unpack = true
      rw [hu]
      rfl
    · exact absurd hpos (lt_irrefl 0)

theorem IsPlain.mul (hx : IsPlain x a) (hy : exactValue? y = some b) (hb : 0 < b) :
    if nearestDouble (a * b) < 2 ^ 1024 then IsPlain (x * y) (nearestDouble (a * b))
    else (x * y).isInf = true := by
  have hmul := hx.isAmount.mul hy hb
  rw [WithTop.map_coe, rounded_coe] at hmul
  split_ifs at hmul ⊢ with hfit
  · exact ⟨hmul.exactValue?_eq, hx.sign.mul hy hb⟩
  · exact hmul.isInf_iff.2 rfl

theorem IsPlain.div (hx : IsPlain x a) (hy : exactValue? y = some b) (hb : 1 ≤ b) :
    IsPlain (x / y) (nearestDouble (a / b)) := by
  have hpos : 0 < b := one_pos.trans_le hb
  obtain ⟨hround, hlt⟩ := nearestDouble_of_exactValue? hx.value hx.nonneg
  have hfit : nearestDouble (a / b) < 2 ^ 1024 := by
    calc
      nearestDouble (a / b) ≤ nearestDouble a :=
        nearestDouble_mono (div_nonneg hx.nonneg hpos.le) (div_le_self hx.nonneg hb)
      _ = a := hround
      _ < 2 ^ 1024 := hlt
  have hdiv := hx.isAmount.div hy hpos
  rw [WithTop.map_coe, rounded_coe, if_pos hfit] at hdiv
  exact ⟨hdiv.exactValue?_eq, hx.sign.div hy hpos⟩

theorem isPlain_toFloat (w : UInt64) : IsPlain w.toFloat (nearestDouble w.toNat) := by
  have hfit : nearestDouble w.toNat < 2 ^ 1024 :=
    nearestDouble_lt_two_pow (Nat.cast_nonneg _)
      (natCast_le_greatestDouble (w.toNat_lt.le.trans (by decide +kernel)))
  have hamount := isAmount_toFloat w
  rw [rounded_coe, if_pos hfit] at hamount
  exact ⟨hamount.exactValue?_eq, hasSign_toFloat w⟩

end Plain

end RoutingCosts
