import RoutingCosts.Number.Binary
import RoutingCosts.Proofs.Number.Nearest
import RoutingCosts.Proofs.Number.Saturation

set_option autoImplicit false

open Float.Model
open Float.Model.UnpackedFloat hiding round

namespace RoutingCosts

def Binary.value? : Binary → Option ℚ
  | .undefined => none
  | .infinite _ => none
  | .finite negative m q => some (if negative then -(m * 2 ^ q) else m * 2 ^ q)

/-- The number that a finite double stands for. -/
def exactValue? (x : Float) : Option ℚ := (Binary.ofFloat x).value?

theorem exactValue?_of_zero {x : Float} {s : Sign} (h : x.toModel.unpack = .zero s) :
    exactValue? x = some 0 := by
  simp [exactValue?, Binary.ofFloat, h, Binary.value?]

theorem exactValue?_of_positive {x : Float} {m : ℕ} {e : ℤ} {hm : 0 < m}
    (h : x.toModel.unpack = .finite .positive m e hm) : exactValue? x = some ((m : ℚ) * 2 ^ e) := by
  have hs : (Sign.positive == Sign.negative) = false := rfl
  simp [exactValue?, Binary.ofFloat, h, hs, Binary.value?]

theorem exactValue?_of_negative {x : Float} {m : ℕ} {e : ℤ} {hm : 0 < m}
    (h : x.toModel.unpack = .finite .negative m e hm) :
    exactValue? x = some (-((m : ℚ) * 2 ^ e)) := by
  simp [exactValue?, Binary.ofFloat, h, Binary.value?]

theorem isSome_exactValue? (x : Float) : (exactValue? x).isSome = x.isFinite := by
  change _ = x.toModel.unpack.isFinite
  rw [exactValue?, Binary.ofFloat]
  cases x.toModel.unpack <;> rfl

/-- A double whose value is not negative is a zero or has a positive sign. -/
inductive Nonneg (x : Float) (a : ℚ) : Prop
  | zero (s : Sign) (unpack : x.toModel.unpack = .zero s) (value : a = 0)
  | positive (m : ℕ) (e : ℤ) (hm : 0 < m) (unpack : x.toModel.unpack = .finite .positive m e hm)
      (shape : Canonical m e) (max : e ≤ 971) (value : a = m * 2 ^ e)

theorem mantissa_mul_pos {m : ℕ} (e : ℤ) (hm : 0 < m) : (0 : ℚ) < m * 2 ^ e :=
  mul_pos (Nat.cast_pos.2 hm) (two_zpow_pos e)

theorem nonneg_of_exactValue? {x : Float} {a : ℚ} (h : exactValue? x = some a) (ha : 0 ≤ a) :
    Nonneg x a := by
  cases hu : x.toModel.unpack with
  | notANumber => simp [exactValue?, Binary.ofFloat, hu, Binary.value?] at h
  | infinity s => simp [exactValue?, Binary.ofFloat, hu, Binary.value?] at h
  | zero s =>
    rw [exactValue?_of_zero hu, Option.some.injEq] at h
    exact .zero s hu h.symm
  | finite s m e hm =>
    obtain ⟨hshape, hmax⟩ := canonical_of_unpack hu
    cases s with
    | negative =>
      rw [exactValue?_of_negative hu, Option.some.injEq] at h
      have hpos := mantissa_mul_pos e hm
      linarith
    | positive =>
      rw [exactValue?_of_positive hu, Option.some.injEq] at h
      exact .positive m e hm hu hshape hmax h.symm

section Order

theorem Canonical.lt_of_exponent_lt {m n : ℕ} {d e : ℤ} (hm : Canonical m d) (hn : Canonical n e)
    (h : d < e) : (m : ℚ) * 2 ^ d < n * 2 ^ e := by
  have hleast := hm.least
  have hfull : 2 ^ 52 ≤ n := hn.full.resolve_left (by omega)
  have hm' : (m : ℚ) < ((2 ^ 53 : ℕ) : ℚ) := Nat.cast_lt.2 hm.small
  have hn' : ((2 ^ 52 : ℕ) : ℚ) ≤ n := Nat.cast_le.2 hfull
  have hcarry : ((2 ^ 53 : ℕ) : ℚ) * 2 ^ d = ((2 ^ 52 : ℕ) : ℚ) * 2 ^ (d + 1) := by
    rw [zpow_add_one₀ two_ne_zero]
    push_cast
    ring
  calc
    (m : ℚ) * 2 ^ d < ((2 ^ 53 : ℕ) : ℚ) * 2 ^ d := mul_lt_mul_of_pos_right hm' (two_zpow_pos d)
    _ = ((2 ^ 52 : ℕ) : ℚ) * 2 ^ (d + 1) := hcarry
    _ ≤ ((2 ^ 52 : ℕ) : ℚ) * 2 ^ e :=
      mul_le_mul_of_nonneg_left (zpow_le_zpow_right₀ one_le_two h) (Nat.cast_nonneg _)
    _ ≤ n * 2 ^ e := mul_le_mul_of_nonneg_right hn' (two_zpow_pos e).le

theorem Canonical.isLE_compare_iff {m n : ℕ} {d e : ℤ} (hm : Canonical m d) (hn : Canonical n e) :
    ((compare d e).then (compare m n)).isLE = true ↔ (m : ℚ) * 2 ^ d ≤ n * 2 ^ e := by
  rcases lt_trichotomy d e with h | h | h
  · rw [compare_lt_iff_lt.2 h]
    exact iff_of_true rfl (hm.lt_of_exponent_lt hn h).le
  · subst h
    rw [compare_eq_iff_eq.2 rfl, Ordering.eq_then, Nat.isLE_compare,
      mul_le_mul_iff_of_pos_right (two_zpow_pos d), Nat.cast_le]
  · rw [compare_gt_iff_gt.2 h]
    exact iff_of_false Bool.false_ne_true (not_le.2 (hn.lt_of_exponent_lt hm h))

theorem le_iff_unpack (x y : Float) :
    x ≤ y ↔ x.toModel.unpack.le y.toModel.unpack = true := by
  change decide (x.toModel.unpack.le y.toModel.unpack = true) = true ↔ _
  exact decide_eq_true_iff

theorem lt_iff_unpack (x y : Float) :
    x < y ↔ x.toModel.unpack.lt y.toModel.unpack = true := by
  change decide (x.toModel.unpack.lt y.toModel.unpack = true) = true ↔ _
  exact decide_eq_true_iff

theorem le_iff_of_exactValue? {x y : Float} {a b : ℚ} (hx : exactValue? x = some a)
    (hy : exactValue? y = some b) (ha : 0 ≤ a) (hb : 0 ≤ b) : x ≤ y ↔ a ≤ b := by
  rw [le_iff_unpack]
  cases nonneg_of_exactValue? hx ha with
  | zero s hu hva =>
    cases nonneg_of_exactValue? hy hb with
    | zero s' hu' hvb =>
      rw [hu, hu', hva, hvb]
      exact iff_of_true rfl le_rfl
    | positive n e hn hu' hshape' hmax' hvb =>
      rw [hu, hu', hva]
      exact iff_of_true rfl hb
  | positive m d hm hu hshape hmax hva =>
    cases nonneg_of_exactValue? hy hb with
    | zero s' hu' hvb =>
      rw [hu, hu', hva, hvb]
      exact iff_of_false Bool.false_ne_true (not_le.2 (mantissa_mul_pos d hm))
    | positive n e hn hu' hshape' hmax' hvb =>
      rw [hu, hu', hva, hvb]
      exact hshape.isLE_compare_iff hshape'

end Order

section Words

theorem Binary.nearest_ofNat (m k : ℕ) : Binary.nearest m (Int.ofNat k) = m * 2 ^ k :=
  Nat.shiftLeft_eq m k

theorem Binary.nearest_negSucc (m k : ℕ) :
    Binary.nearest m (.negSucc k) * 2 ^ (k + 1) ≤ m + 2 ^ k ∧
      m + 2 ^ k < (Binary.nearest m (.negSucc k) + 1) * 2 ^ (k + 1) := by
  have hdiv : Binary.nearest m (.negSucc k) = (m + 2 ^ k) / 2 ^ (k + 1) := by
    rw [Binary.nearest, Nat.one_shiftLeft, Nat.shiftRight_eq_div_pow]
  rw [hdiv]
  exact ⟨Nat.div_mul_le_self _ _, Nat.lt_mul_of_div_lt (Nat.lt_succ_self _) (Nat.two_pow_pos _)⟩

theorem Binary.nearest_eq_round (m : ℕ) (q : ℤ) :
    (Binary.nearest m q : ℤ) = round ((m : ℚ) * 2 ^ q) := by
  cases q with
  | ofNat k =>
    have hcast : (m : ℚ) * 2 ^ (Int.ofNat k) = ((m * 2 ^ k : ℕ) : ℚ) := by
      rw [Int.ofNat_eq_natCast, zpow_natCast]
      push_cast
      rfl
    rw [hcast, round_natCast, Binary.nearest_ofNat]
  | negSucc k =>
    obtain ⟨hlo, hhi⟩ := Binary.nearest_negSucc m k
    have hpos : (0 : ℚ) < 2 ^ (k + 1) := by positivity
    have hpow : (2 : ℚ) ^ (k + 1) = 2 * 2 ^ k := pow_succ' 2 k
    have hlo' : (Binary.nearest m (.negSucc k) : ℚ) * 2 ^ (k + 1) ≤ m + 2 ^ k := by
      exact_mod_cast hlo
    have hhi' : (m : ℚ) + 2 ^ k < (Binary.nearest m (.negSucc k) + 1) * 2 ^ (k + 1) := by
      exact_mod_cast hhi
    symm
    rw [zpow_negSucc, ← div_eq_mul_inv, round_eq_iff, Set.mem_Ico, le_div_iff₀ hpos,
      div_lt_iff₀ hpos]
    push_cast
    constructor <;> linarith

theorem toNat_roundToWord_eq_min {x : Float} {a : ℚ} (hx : exactValue? x = some a) (ha : 0 ≤ a) :
    ((roundToWord x).toNat : ℤ) = min (round a) (2 ^ 64 - 1) := by
  rw [roundToWord, Binary.ofFloat]
  cases nonneg_of_exactValue? hx ha with
  | zero s hu hva =>
    rw [hu, hva, round_zero]
    cases s <;> rfl
  | positive m e hm hu hshape hmax' hva =>
    have hround : (Binary.nearest m e : ℤ) = round a := by rw [hva, Binary.nearest_eq_round]
    have hsign : (Sign.positive == Sign.negative) = false := rfl
    simp only [hu, hsign, Binary.toWord, Bool.false_eq_true, if_false, toNat_ofNatClamp]
    omega

theorem toNat_roundToWord {x : Float} {a : ℚ} (hx : exactValue? x = some a) (ha : 0 ≤ a)
    (hmax : a ≤ 2 ^ 64 - 1) : ((roundToWord x).toNat : ℤ) = round a := by
  have hlt : round a < 2 ^ 64 := by
    rw [round_eq, Int.floor_lt]
    push_cast
    linarith
  rw [toNat_roundToWord_eq_min hx ha, min_eq_left (by omega)]

end Words

end RoutingCosts
