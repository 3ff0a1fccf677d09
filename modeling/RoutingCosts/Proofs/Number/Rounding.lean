import Mathlib.Algebra.Order.Round
import Mathlib.Data.Int.Log
import Mathlib.Data.Rat.Floor
import Mathlib.Tactic.Linarith
import Mathlib.Tactic.Positivity
import Mathlib.Tactic.Ring

/-!
# Rounding to doubles

The doubles near a positive number are the multiples of its last place, a power of two. Rounding
goes to the nearest of them, and half way to the even one. It keeps the order, and it leaves alone
what is a multiple of its last place.
-/

set_option autoImplicit false

namespace RoutingCosts

/-- The nearest integer; half way between two it is the even one. -/
def roundHalfEven (x : ℚ) : ℤ :=
  if x - ⌊x⌋ < 1 / 2 then ⌊x⌋
  else if 1 / 2 < x - ⌊x⌋ then ⌊x⌋ + 1
  else ⌊x⌋ + ⌊x⌋ % 2

theorem floor_le_roundHalfEven (x : ℚ) : ⌊x⌋ ≤ roundHalfEven x := by
  unfold roundHalfEven
  split_ifs <;> omega

theorem roundHalfEven_le_floor_add_one (x : ℚ) : roundHalfEven x ≤ ⌊x⌋ + 1 := by
  unfold roundHalfEven
  split_ifs <;> omega

@[simp] theorem roundHalfEven_intCast (n : ℤ) : roundHalfEven n = n := by
  simp [roundHalfEven]

theorem roundHalfEven_intCast_add (n : ℤ) {x : ℚ} (hx : 0 ≤ x) (hlt : x < 1 / 2) :
    roundHalfEven (n + x) = n := by
  have hfloor : ⌊(n : ℚ) + x⌋ = n := Int.floor_eq_iff.2 ⟨by linarith, by linarith⟩
  rw [roundHalfEven, hfloor, if_pos (by linarith)]

theorem roundHalfEven_mono {x y : ℚ} (h : x ≤ y) : roundHalfEven x ≤ roundHalfEven y := by
  rcases (Int.floor_mono h).lt_or_eq with hlt | heq
  · have hstep : ⌊x⌋ + 1 ≤ ⌊y⌋ := hlt
    exact (roundHalfEven_le_floor_add_one x).trans (hstep.trans (floor_le_roundHalfEven y))
  · unfold roundHalfEven
    rw [heq]
    split_ifs <;> first | omega | linarith

theorem le_roundHalfEven {n : ℤ} {x : ℚ} (h : n ≤ x) : n ≤ roundHalfEven x := by
  simpa using roundHalfEven_mono h

theorem roundHalfEven_le {n : ℤ} {x : ℚ} (h : x ≤ n) : roundHalfEven x ≤ n := by
  simpa using roundHalfEven_mono h

/-- The exponent of the last place that a double near `x` has, when there are 53 places. -/
def lastPlace (x : ℚ) : ℤ := max (Int.log 2 x - 52) (-1074)

def nearestDouble (x : ℚ) : ℚ := roundHalfEven (x / 2 ^ lastPlace x) * 2 ^ lastPlace x

theorem nearestDouble_zero : nearestDouble 0 = 0 := by
  have h : roundHalfEven 0 = 0 := by simpa using roundHalfEven_intCast 0
  rw [nearestDouble, zero_div, h, Int.cast_zero, zero_mul]

theorem two_zpow_pos (e : ℤ) : (0 : ℚ) < 2 ^ e := zpow_pos two_pos e

theorem lastPlace_mono {x y : ℚ} (hx : 0 < x) (h : x ≤ y) : lastPlace x ≤ lastPlace y :=
  max_le_max_right _ (Int.sub_le_sub_right (Int.log_mono_right hx h) 52)

theorem lt_two_zpow_log (x : ℚ) : x < 2 ^ (Int.log 2 x + 1) := by
  exact_mod_cast Int.lt_zpow_succ_log_self (b := 2) one_lt_two x

theorem two_zpow_log_le {x : ℚ} (hx : 0 < x) : 2 ^ Int.log 2 x ≤ x := by
  exact_mod_cast Int.zpow_log_le_self (b := 2) one_lt_two hx

theorem log_eq_of_bounds {x : ℚ} {e : ℤ} (hlo : 2 ^ e ≤ x) (hhi : x < 2 ^ (e + 1)) :
    Int.log 2 x = e := by
  have hx : 0 < x := (two_zpow_pos e).trans_le hlo
  have h₁ : e ≤ Int.log 2 x :=
    (Int.zpow_le_iff_le_log (b := 2) one_lt_two hx).1 (by exact_mod_cast hlo)
  have h₂ : Int.log 2 x < e + 1 :=
    (Int.lt_zpow_iff_log_lt (b := 2) one_lt_two hx).1 (by exact_mod_cast hhi)
  omega

theorem roundHalfEven_lastPlace_le (x : ℚ) : roundHalfEven (x / 2 ^ lastPlace x) ≤ 2 ^ 53 := by
  have hz : ((2 ^ 53 : ℤ) : ℚ) = 2 ^ (53 : ℤ) := by norm_num
  have hpow : (2 : ℚ) ^ (Int.log 2 x + 1) ≤ ((2 ^ 53 : ℤ) : ℚ) * 2 ^ lastPlace x := by
    rw [hz, ← zpow_add₀ two_ne_zero]
    exact zpow_le_zpow_right₀ one_le_two (by unfold lastPlace; omega)
  exact roundHalfEven_le
    ((div_le_iff₀ (two_zpow_pos _)).2 ((lt_two_zpow_log x).le.trans hpow))

theorem le_lastPlace_of_two_zpow_le {x : ℚ} {k : ℤ} (h : 2 ^ (52 + k) ≤ x) : k ≤ lastPlace x := by
  have hx : 0 < x := (two_zpow_pos _).trans_le h
  have hlog : 52 + k ≤ Int.log 2 x :=
    (Int.zpow_le_iff_le_log (b := 2) one_lt_two hx).1 (by exact_mod_cast h)
  unfold lastPlace
  omega

theorem le_roundHalfEven_lastPlace {x : ℚ} (hx : 0 < x) :
    lastPlace x = -1074 ∨ 2 ^ 52 ≤ roundHalfEven (x / 2 ^ lastPlace x) := by
  rcases le_total (Int.log 2 x - 52) (-1074) with hlog | hlog
  · exact .inl (max_eq_right hlog)
  · right
    have hp : lastPlace x = Int.log 2 x - 52 := max_eq_left hlog
    have hz : ((2 ^ 52 : ℤ) : ℚ) = 2 ^ (52 : ℤ) := by norm_num
    have hpow : ((2 ^ 52 : ℤ) : ℚ) * 2 ^ lastPlace x = 2 ^ Int.log 2 x := by
      rw [hz, ← zpow_add₀ two_ne_zero, hp]
      congr 1
      omega
    exact le_roundHalfEven ((le_div_iff₀ (two_zpow_pos _)).2 (hpow.le.trans (two_zpow_log_le hx)))

theorem exists_two_zpow_eq {p k : ℤ} (h : p ≤ k) : ∃ n : ℤ, (2 : ℚ) ^ k = n * 2 ^ p := by
  obtain ⟨n, hn⟩ := Int.eq_ofNat_of_zero_le (Int.sub_nonneg_of_le h)
  refine ⟨2 ^ n, ?_⟩
  rw [Int.cast_pow, Int.cast_ofNat, ← zpow_natCast, ← zpow_add₀ two_ne_zero]
  congr 1
  omega

theorem nearestDouble_le_two_zpow {x : ℚ} {k : ℤ} (hk : lastPlace x ≤ k) (h : x ≤ 2 ^ k) :
    nearestDouble x ≤ 2 ^ k := by
  obtain ⟨n, hn⟩ := exists_two_zpow_eq hk
  rw [hn] at h ⊢
  have hr : roundHalfEven (x / 2 ^ lastPlace x) ≤ n :=
    roundHalfEven_le ((div_le_iff₀ (two_zpow_pos _)).2 h)
  exact mul_le_mul_of_nonneg_right (Int.cast_le.2 hr) (two_zpow_pos _).le

theorem two_zpow_le_nearestDouble {x : ℚ} {k : ℤ} (hk : lastPlace x ≤ k) (h : 2 ^ k ≤ x) :
    2 ^ k ≤ nearestDouble x := by
  obtain ⟨n, hn⟩ := exists_two_zpow_eq hk
  rw [hn] at h ⊢
  have hr : n ≤ roundHalfEven (x / 2 ^ lastPlace x) :=
    le_roundHalfEven ((le_div_iff₀ (two_zpow_pos _)).2 h)
  exact mul_le_mul_of_nonneg_right (Int.cast_le.2 hr) (two_zpow_pos _).le

theorem nearestDouble_nonneg {x : ℚ} (hx : 0 ≤ x) : 0 ≤ nearestDouble x := by
  have hq : ((0 : ℤ) : ℚ) ≤ x / 2 ^ lastPlace x := by
    simpa using div_nonneg hx (two_zpow_pos _).le
  exact mul_nonneg (Int.cast_nonneg (le_roundHalfEven hq)) (two_zpow_pos _).le

theorem nearestDouble_mono {x y : ℚ} (hx : 0 ≤ x) (h : x ≤ y) :
    nearestDouble x ≤ nearestDouble y := by
  rcases hx.eq_or_lt with rfl | hx
  · rw [nearestDouble_zero]
    exact nearestDouble_nonneg h
  have hp := lastPlace_mono hx h
  rcases hp.lt_or_eq with hlt | heq
  · -- a power of two lies between the two numbers
    have hlog : Int.log 2 x + 1 ≤ Int.log 2 y := by unfold lastPlace at hlt; omega
    have hx' : x ≤ 2 ^ Int.log 2 y :=
      (lt_two_zpow_log x).le.trans (zpow_le_zpow_right₀ one_le_two hlog)
    have hy' : 2 ^ Int.log 2 y ≤ y := two_zpow_log_le (hx.trans_le h)
    have hpy : lastPlace y ≤ Int.log 2 y := by unfold lastPlace at hlt ⊢; omega
    exact (nearestDouble_le_two_zpow (hp.trans hpy) hx').trans (two_zpow_le_nearestDouble hpy hy')
  · unfold nearestDouble
    rw [heq]
    have hq : x / 2 ^ lastPlace y ≤ y / 2 ^ lastPlace y :=
      div_le_div_of_nonneg_right h (two_zpow_pos _).le
    exact mul_le_mul_of_nonneg_right (Int.cast_le.2 (roundHalfEven_mono hq)) (two_zpow_pos _).le

end RoutingCosts
