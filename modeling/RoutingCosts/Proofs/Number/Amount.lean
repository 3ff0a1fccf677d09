import RoutingCosts.Proofs.Number.Value

/-!
# Doubles from zero to infinity

A double that is neither undefined nor negative is an amount: it stands for a rational number or for
infinity, and amounts are ordered as what they stand for. Rounding leaves amounts alone and keeps
the order, also where it goes beyond the greatest double to infinity.
-/

set_option autoImplicit false

open Float.Model
open Float.Model.UnpackedFloat hiding round

namespace RoutingCosts

/-- What an amount stands for. -/
inductive IsAmount (x : Float) : WithTop ℚ → Prop
  | infinite (unpack : x.toModel.unpack = .infinity .positive) : IsAmount x ⊤
  | finite {a : ℚ} (value : exactValue? x = some a) (nonneg : 0 ≤ a) : IsAmount x a

theorem IsAmount.exactValue?_eq {x : Float} {a : ℚ} (h : IsAmount x a) : exactValue? x = some a := by
  generalize hc : (a : WithTop ℚ) = c at h
  cases h with
  | infinite hu => exact absurd hc (WithTop.coe_ne_top)
  | finite hv hnonneg => rw [hv, WithTop.coe_injective hc]

theorem exactValue?_zero : exactValue? 0 = some 0 := by
  have h : Binary.ofFloat 0 = .finite false 0 0 := by decide
  rw [exactValue?, h]
  simp [Binary.value?]

theorem isAmount_zero : IsAmount 0 0 := .finite exactValue?_zero le_rfl

section Compare

theorem isNaN_eq_unpack (x : Float) : x.isNaN = x.toModel.unpack.isNaN := rfl

theorem isInf_eq_unpack (x : Float) : x.isInf = x.toModel.unpack.isInf := rfl

theorem swap_compare_then (d e : ℤ) (m n : ℕ) :
    ((compare d e).then (compare m n)).swap = (compare e d).then (compare n m) := by
  rw [Ordering.swap_then, ← Std.OrientedOrd.eq_swap, ← Std.OrientedOrd.eq_swap]

theorem exists_compare {u v : UnpackedFloat} (hu : u.isNaN = false) (hv : v.isNaN = false) :
    ∃ o : Ordering, u.compare v = some o ∧ v.compare u = some o.swap := by
  cases u with
  | notANumber => cases hu
  | infinity s =>
    cases v with
    | notANumber => cases hv
    | infinity t => cases s <;> cases t <;> exact ⟨_, rfl, rfl⟩
    | zero t => cases s <;> exact ⟨_, rfl, rfl⟩
    | finite t n e hn => cases s <;> cases t <;> exact ⟨_, rfl, rfl⟩
  | zero s =>
    cases v with
    | notANumber => cases hv
    | infinity t => cases t <;> exact ⟨_, rfl, rfl⟩
    | zero t => exact ⟨_, rfl, rfl⟩
    | finite t n e hn => cases t <;> exact ⟨_, rfl, rfl⟩
  | finite s m d hm =>
    cases v with
    | notANumber => cases hv
    | infinity t => cases s <;> cases t <;> exact ⟨_, rfl, rfl⟩
    | zero t => cases s <;> exact ⟨_, rfl, rfl⟩
    | finite t n e hn =>
      have hswap := swap_compare_then d e m n
      cases s with
      | negative =>
        cases t with
        | negative => exact ⟨_, rfl, congrArg (some ∘ Ordering.swap) hswap.symm⟩
        | positive => exact ⟨_, rfl, rfl⟩
      | positive =>
        cases t with
        | negative => exact ⟨_, rfl, rfl⟩
        | positive => exact ⟨_, rfl, congrArg some hswap.symm⟩

theorem lt_iff_not_le {x y : Float} (hx : x.isNaN = false) (hy : y.isNaN = false) :
    x < y ↔ ¬ y ≤ x := by
  rw [isNaN_eq_unpack] at hx hy
  obtain ⟨o, ho, hswap⟩ := exists_compare hx hy
  rw [lt_iff_unpack, le_iff_unpack, UnpackedFloat.lt, UnpackedFloat.le, ho, hswap]
  cases o <;> decide

theorem isNaN_eq_false_of_le {x y : Float} (h : x ≤ y) : x.isNaN = false ∧ y.isNaN = false := by
  rw [le_iff_unpack] at h
  rw [isNaN_eq_unpack, isNaN_eq_unpack]
  cases hx : x.toModel.unpack with
  | notANumber => rw [hx] at h; cases h
  | _ =>
    refine ⟨rfl, ?_⟩
    cases hy : y.toModel.unpack with
    | notANumber => rw [hx, hy] at h; cases h
    | _ => rfl

theorem le_of_float_beq {x y : Float} (h : (x == y) = true) : x ≤ y ∧ y ≤ x := by
  change x.toModel.unpack.beq y.toModel.unpack = true at h
  have hcompare := eq_of_beq h
  obtain ⟨hx, hy⟩ : x.isNaN = false ∧ y.isNaN = false := by
    refine isNaN_eq_false_of_le ?_
    rw [le_iff_unpack, UnpackedFloat.le, hcompare]
    rfl
  obtain ⟨o, ho, hswap⟩ := exists_compare hx hy
  obtain rfl : o = .eq := Option.some_injective _ (ho.symm.trans hcompare)
  rw [le_iff_unpack, le_iff_unpack, UnpackedFloat.le, UnpackedFloat.le, ho, hswap]
  exact ⟨rfl, rfl⟩

end Compare

section Order

variable {x y : Float} {a b : WithTop ℚ}

theorem IsAmount.zero_le (h : IsAmount x a) : 0 ≤ a := by
  cases h with
  | infinite unpack => exact le_top
  | finite value nonneg => exact WithTop.coe_nonneg.2 nonneg

theorem IsAmount.le_iff (hx : IsAmount x a) (hy : IsAmount y b) : x ≤ y ↔ a ≤ b := by
  cases hx with
  | infinite hu =>
    rw [le_iff_unpack, hu]
    cases hy with
    | infinite hu' =>
      rw [hu']
      exact iff_of_true rfl le_rfl
    | finite hv hb =>
      refine iff_of_false ?_ (not_le.2 (WithTop.coe_lt_top _))
      cases nonneg_of_exactValue? hv hb with
      | zero s hu' hvb => rw [hu']; exact Bool.false_ne_true
      | positive n e hn hu' hshape hmax hvb => rw [hu']; exact Bool.false_ne_true
  | finite hv ha =>
    cases hy with
    | infinite hu' =>
      rw [le_iff_unpack, hu']
      refine iff_of_true ?_ le_top
      cases nonneg_of_exactValue? hv ha with
      | zero s hu hva => rw [hu]; rfl
      | positive n e hn hu hshape hmax hva => rw [hu]; rfl
    | finite hv' hb =>
      rw [le_iff_of_exactValue? hv hv' ha hb, WithTop.coe_le_coe]

theorem IsAmount.nonneg (h : IsAmount x a) : 0 ≤ x :=
  (isAmount_zero.le_iff h).2 h.zero_le

theorem IsAmount.isNaN_eq_false (h : IsAmount x a) : x.isNaN = false := by
  rw [isNaN_eq_unpack]
  cases h with
  | infinite hu => rw [hu]; rfl
  | finite hv ha =>
    cases nonneg_of_exactValue? hv ha with
    | zero s hu hva => rw [hu]; rfl
    | positive n e hn hu hshape hmax hva => rw [hu]; rfl

theorem IsAmount.lt_iff (hx : IsAmount x a) (hy : IsAmount y b) : x < y ↔ a < b := by
  rw [lt_iff_not_le hx.isNaN_eq_false hy.isNaN_eq_false, hy.le_iff hx, not_le]

theorem IsAmount.isInf_iff (h : IsAmount x a) : x.isInf = true ↔ a = ⊤ := by
  rw [isInf_eq_unpack]
  cases h with
  | infinite hu =>
    rw [hu]
    exact iff_of_true rfl rfl
  | finite hv ha =>
    refine iff_of_false ?_ WithTop.coe_ne_top
    cases nonneg_of_exactValue? hv ha with
    | zero s hu hva => rw [hu]; exact Bool.false_ne_true
    | positive m e hm hu hshape hmax hva => rw [hu]; exact Bool.false_ne_true

theorem exists_isAmount (hdefined : x.isNaN = false) (hneg : ¬ x < 0) : ∃ a, IsAmount x a := by
  rw [isNaN_eq_unpack] at hdefined
  rw [lt_iff_unpack] at hneg
  cases hu : x.toModel.unpack with
  | notANumber =>
    rw [hu] at hdefined
    cases hdefined
  | infinity s =>
    cases s with
    | negative => rw [hu] at hneg; exact absurd rfl hneg
    | positive => exact ⟨⊤, .infinite hu⟩
  | zero s => exact ⟨_, .finite (exactValue?_of_zero hu) le_rfl⟩
  | finite s m e hm =>
    cases s with
    | negative => rw [hu] at hneg; exact absurd rfl hneg
    | positive =>
      exact ⟨_, .finite (exactValue?_of_positive hu) (mantissa_mul_pos e hm).le⟩

theorem IsAmount.not_le_of_neg (hx : IsAmount x a) (hy : y < 0) : ¬ x ≤ y := by
  intro h
  rw [le_iff_unpack] at h
  rw [lt_iff_unpack] at hy
  cases hu : y.toModel.unpack with
  | notANumber => rw [hu] at hy; cases hy
  | zero s => rw [hu] at hy; cases hy
  | infinity s =>
    rw [hu] at h hy
    cases s with
    | positive => cases hy
    | negative =>
      cases hx with
      | infinite hx => rw [hx] at h; cases h
      | finite hv ha =>
        cases nonneg_of_exactValue? hv ha with
        | zero s hx hva => rw [hx] at h; cases h
        | positive m e hm hx hshape hmax hva => rw [hx] at h; cases h
  | finite s n e hn =>
    rw [hu] at h hy
    cases s with
    | positive => cases hy
    | negative =>
      cases hx with
      | infinite hx => rw [hx] at h; cases h
      | finite hv ha =>
        cases nonneg_of_exactValue? hv ha with
        | zero s hx hva => rw [hx] at h; cases h
        | positive m e hm hx hshape hmax hva => rw [hx] at h; cases h

end Order

section Finite

variable {x : Float}

theorem isFinite_eq_unpack (x : Float) : x.isFinite = x.toModel.unpack.isFinite := rfl

theorem exists_exactValue?_of_nonneg (hfinite : x.isFinite = true) (hneg : ¬ x < 0) :
    ∃ a, exactValue? x = some a ∧ 0 ≤ a := by
  rw [isFinite_eq_unpack] at hfinite
  have hdefined : x.isNaN = false := by
    rw [isNaN_eq_unpack]
    cases hu : x.toModel.unpack with
    | notANumber => rw [hu] at hfinite; cases hfinite
    | infinity s => rfl
    | zero s => rfl
    | finite s m e hm => rfl
  obtain ⟨_, h⟩ := exists_isAmount hdefined hneg
  cases h with
  | infinite hu => rw [hu] at hfinite; cases hfinite
  | finite hv ha => exact ⟨_, hv, ha⟩

theorem le_of_float_lt {y : Float} (h : x < y) : x ≤ y := by
  rw [lt_iff_unpack] at h
  rw [le_iff_unpack]
  unfold UnpackedFloat.le
  rw [eq_of_beq h]
  rfl

theorem exists_exactValue?_of_pos (hfinite : x.isFinite = true) (hpos : ¬ x ≤ 0) :
    ∃ a, exactValue? x = some a ∧ 0 < a := by
  obtain ⟨a, hv, ha⟩ := exists_exactValue?_of_nonneg hfinite (mt le_of_float_lt hpos)
  refine ⟨a, hv, ha.lt_of_ne' ?_⟩
  rintro rfl
  exact hpos ((le_iff_of_exactValue? hv exactValue?_zero le_rfl le_rfl).2 le_rfl)

end Finite

section Rounding

/-- The amount that an exact number is rounded to; beyond the greatest double that is infinity. -/
def rounded : WithTop ℚ → WithTop ℚ
  | ⊤ => ⊤
  | (x : ℚ) => if nearestDouble x < 2 ^ 1024 then (nearestDouble x : ℚ) else ⊤

theorem rounded_coe (x : ℚ) :
    rounded x = if nearestDouble x < 2 ^ 1024 then (nearestDouble x : WithTop ℚ) else ⊤ := rfl

theorem rounded_mono {a b : WithTop ℚ} (ha : 0 ≤ a) (h : a ≤ b) : rounded a ≤ rounded b := by
  induction b with
  | top => exact le_top
  | coe y =>
    induction a with
    | top => exact absurd h (not_le.2 (WithTop.coe_lt_top y))
    | coe x =>
      have hmono := nearestDouble_mono (WithTop.coe_nonneg.1 ha) (WithTop.coe_le_coe.1 h)
      rw [rounded_coe, rounded_coe]
      split_ifs with hx hy
      · exact WithTop.coe_le_coe.2 hmono
      · exact le_top
      · exact absurd (hmono.trans_lt ‹_›) hx
      · exact le_rfl

theorem Canonical.lastPlace_eq {m : ℕ} {e : ℤ} (h : Canonical m e) (hm : 0 < m) {x : ℚ}
    (hlo : m * 2 ^ e ≤ x) (hhi : x < (m + 1) * 2 ^ e) : lastPlace x = e := by
  have hlog : m.log2 < 53 := (Nat.log2_lt hm.ne').2 h.small
  have hleast := h.least
  rw [lastPlace, log_eq_log2_add hm hlo hhi]
  rcases h.full with he | hfull
  · omega
  · have hlo : 52 ≤ m.log2 := (Nat.le_log2 hm.ne').2 hfull
    omega

/-- What is less than half a last place is lost when it is added to a double. -/
theorem Canonical.nearestDouble_add_eq {m : ℕ} {e : ℤ} (h : Canonical m e) (hm : 0 < m) {x : ℚ}
    (hx : 0 ≤ x) (hlt : x < 2 ^ e / 2) : nearestDouble (m * 2 ^ e + x) = m * 2 ^ e := by
  have hpos := two_zpow_pos e
  have hplace : lastPlace (m * 2 ^ e + x) = e := h.lastPlace_eq hm (by linarith) (by linarith)
  have hscaled : ((m : ℚ) * 2 ^ e + x) / 2 ^ e = (m : ℤ) + x / 2 ^ e := by
    rw [add_div, mul_div_cancel_right₀ _ hpos.ne', Int.cast_natCast]
  have hhalf : x / 2 ^ e < 1 / 2 := by
    rw [div_lt_iff₀ hpos]
    linarith
  rw [nearestDouble, hplace, hscaled, roundHalfEven_intCast_add _ (div_nonneg hx hpos.le) hhalf,
    Int.cast_natCast]

theorem Canonical.nearestDouble_eq {m : ℕ} {e : ℤ} (h : Canonical m e) (hm : 0 < m) :
    nearestDouble ((m : ℚ) * 2 ^ e) = m * 2 ^ e := by
  have hsum := h.nearestDouble_add_eq hm le_rfl (half_pos (two_zpow_pos e))
  rwa [add_zero] at hsum

theorem Canonical.lt_two_pow {m : ℕ} {e : ℤ} (h : Canonical m e) (he : e ≤ 971) :
    (m : ℚ) * 2 ^ e < 2 ^ 1024 := by
  have hm : (m : ℚ) < ((2 ^ 53 : ℕ) : ℚ) := Nat.cast_lt.2 h.small
  have hz : ((2 ^ 53 : ℕ) : ℚ) = 2 ^ (53 : ℤ) := by norm_num
  calc
    (m : ℚ) * 2 ^ e < ((2 ^ 53 : ℕ) : ℚ) * 2 ^ e := mul_lt_mul_of_pos_right hm (two_zpow_pos e)
    _ ≤ ((2 ^ 53 : ℕ) : ℚ) * 2 ^ (971 : ℤ) :=
      mul_le_mul_of_nonneg_left (zpow_le_zpow_right₀ one_le_two he) (Nat.cast_nonneg _)
    _ = 2 ^ (1024 : ℤ) := by rw [hz, ← zpow_add₀ two_ne_zero]; rfl
    _ = 2 ^ 1024 := zpow_natCast 2 1024

def greatestDouble : ℚ := (2 ^ 53 - 1 : ℕ) * 2 ^ (971 : ℤ)

theorem canonical_greatest : Canonical (2 ^ 53 - 1) 971 := ⟨by decide, by decide, .inr (by decide)⟩

theorem nearestDouble_lt_two_pow {x : ℚ} (hx : 0 ≤ x) (h : x ≤ greatestDouble) :
    nearestDouble x < 2 ^ 1024 := by
  calc
    nearestDouble x ≤ nearestDouble greatestDouble := nearestDouble_mono hx h
    _ = greatestDouble := canonical_greatest.nearestDouble_eq (by decide)
    _ < 2 ^ 1024 := canonical_greatest.lt_two_pow le_rfl

theorem natCast_le_greatestDouble {n : ℕ} (h : n ≤ 10 ^ 308) : (n : ℚ) ≤ greatestDouble := by
  have hpow : (10 : ℕ) ^ 308 ≤ (2 ^ 53 - 1) * 2 ^ 971 := by decide +kernel
  have hcast : greatestDouble = (((2 ^ 53 - 1) * 2 ^ 971 : ℕ) : ℚ) := by
    rw [Nat.cast_mul, Nat.cast_pow, Nat.cast_ofNat, ← zpow_natCast]
    rfl
  rw [hcast]
  exact Nat.cast_le.2 (h.trans hpow)

theorem le_greatestDouble {x : Float} {a : ℚ} (h : exactValue? x = some a) (ha : 0 ≤ a) :
    a ≤ greatestDouble := by
  cases nonneg_of_exactValue? h ha with
  | zero s hu hva =>
    rw [hva]
    exact (mantissa_mul_pos 971 (by decide)).le
  | positive m e hm hu hshape hmax hva =>
    have hm' : (m : ℚ) ≤ (2 ^ 53 - 1 : ℕ) := Nat.cast_le.2 (Nat.le_pred_of_lt hshape.small)
    have hpow : (2 : ℚ) ^ e ≤ 2 ^ (971 : ℤ) := zpow_le_zpow_right₀ one_le_two hmax
    rw [hva]
    exact mul_le_mul hm' hpow (two_zpow_pos e).le (Nat.cast_nonneg _)

theorem nearestDouble_of_exactValue? {x : Float} {a : ℚ} (h : exactValue? x = some a)
    (ha : 0 ≤ a) : nearestDouble a = a ∧ a < 2 ^ 1024 := by
  cases nonneg_of_exactValue? h ha with
  | zero s hu hva =>
    rw [hva]
    exact ⟨nearestDouble_zero, pow_pos two_pos 1024⟩
  | positive m e hm hu hshape hmax hva =>
    rw [hva]
    exact ⟨hshape.nearestDouble_eq hm, hshape.lt_two_pow hmax⟩

theorem IsAmount.rounded_eq {x : Float} {a : WithTop ℚ} (h : IsAmount x a) : rounded a = a := by
  cases h with
  | infinite hu => rfl
  | finite hv ha =>
    obtain ⟨hround, hlt⟩ := nearestDouble_of_exactValue? hv ha
    rw [rounded_coe, hround, if_pos hlt]

end Rounding

end RoutingCosts
