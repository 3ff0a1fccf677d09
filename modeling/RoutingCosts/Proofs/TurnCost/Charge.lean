import RoutingCosts.Proofs.Number.Arithmetic
import RoutingCosts.TurnCost.Basic

set_option autoImplicit false

namespace RoutingCosts

theorem exists_exactValue?_of_isCharge {w : Float} (h : isCharge w = true) :
    ∃ a, exactValue? w = some a ∧ 0 ≤ a := by
  rw [isCharge, Bool.and_eq_true, Bool.not_eq_true', decide_eq_false_iff_not] at h
  exact exists_exactValue?_of_nonneg h.1 h.2

theorem exactValue?_thousand : exactValue? 1000.0 = some 1000 := by
  have h : Binary.ofFloat 1000.0 = .finite false 8796093022208000 (-43) := by decide
  rw [exactValue?, h]
  norm_num [Binary.value?]

theorem exactValue?_restrictedWeight : exactValue? restrictedWeight = some (10 ^ 15) := by
  have h : Binary.ofFloat restrictedWeight = .finite false 8000000000000000 (-3) := by decide
  rw [exactValue?, h]
  norm_num [Binary.value?]

theorem le_of_lt_restricted {w : Float} {a : ℚ} (h : exactValue? w = some a) (ha : 0 ≤ a)
    (hlt : a < 10 ^ 15) : a ≤ 10 ^ 15 - 1 / 8 := by
  cases nonneg_of_exactValue? h ha with
  | zero s hu hva => rw [hva]; norm_num
  | positive m e hm hu hshape hmax hva =>
    rcases lt_or_ge e (-3) with he | he
    · have hm' : (m : ℚ) ≤ ((2 ^ 53 : ℕ) : ℚ) := Nat.cast_le.2 hshape.small.le
      have hpow : (2 : ℚ) ^ e ≤ 2 ^ (-4 : ℤ) := zpow_le_zpow_right₀ one_le_two (by omega)
      calc
        a = m * 2 ^ e := hva
        _ ≤ ((2 ^ 53 : ℕ) : ℚ) * 2 ^ (-4 : ℤ) :=
          mul_le_mul hm' hpow (two_zpow_pos e).le (Nat.cast_nonneg _)
        _ ≤ 10 ^ 15 - 1 / 8 := by norm_num
    · obtain ⟨n, hn⟩ := exists_two_zpow_eq he
      have hgrid : a = ((m * n : ℤ) : ℚ) * 2 ^ (-3 : ℤ) := by
        rw [hva, hn]
        push_cast
        ring
      have hz : (2 : ℚ) ^ (-3 : ℤ) = 1 / 8 := by norm_num
      rw [hgrid, hz] at hlt ⊢
      have hint : (m * n : ℤ) < 8 * 10 ^ 15 := by
        have hq : ((m * n : ℤ) : ℚ) < ((8 * 10 ^ 15 : ℤ) : ℚ) := by
          push_cast at hlt ⊢
          linarith
        exact_mod_cast hq
      have hint' : ((m * n : ℤ) : ℚ) ≤ ((8 * 10 ^ 15 - 1 : ℤ) : ℚ) := Int.cast_le.2 (by omega)
      push_cast at hint' ⊢
      linarith

/-- The greatest weight below that of a forbidden turn takes less than the time of one. -/
theorem nearestDouble_below_restricted :
    nearestDouble ((10 ^ 15 - 1 / 8) * 1000) = 10 ^ 18 - 128 := by
  have hlog : Int.log 2 ((10 ^ 15 - 1 / 8) * 1000 : ℚ) = 59 :=
    log_eq_of_bounds (by norm_num) (by norm_num)
  have hplace : lastPlace ((10 ^ 15 - 1 / 8) * 1000) = 7 := by
    rw [lastPlace, hlog]
    rfl
  have hfloor : ⌊((10 ^ 15 - 1 / 8) * 1000 / 2 ^ (7 : ℤ) : ℚ)⌋ = 7812499999999999 := by
    rw [Int.floor_eq_iff]
    norm_num
  rw [nearestDouble, hplace, roundHalfEven, hfloor]
  norm_num

structure Contract (weight : Float) (time : UInt64) : Prop where
  finite : weight.isFinite = true
  nonneg : 0 ≤ weight
  time_le : time ≤ restrictedTime
  forbidden : time = restrictedTime ↔ restrictedWeight ≤ weight
  rounded : ¬ restrictedWeight ≤ weight →
    ∃ a, exactValue? (weight * 1000.0) = some a ∧ (time.toNat : ℤ) = round a

theorem contract_turnTime {w : Float} (h : isCharge w = true) : Contract w (turnTime w) := by
  obtain ⟨a, hw, ha⟩ := exists_exactValue?_of_isCharge h
  have hforbidden : restrictedWeight ≤ w ↔ 10 ^ 15 ≤ a :=
    le_iff_of_exactValue? exactValue?_restrictedWeight hw (by norm_num) ha
  have hfinite : w.isFinite = true := by rw [← isSome_exactValue?, hw]; rfl
  have hnonneg : 0 ≤ w := (le_iff_of_exactValue? exactValue?_zero hw le_rfl ha).2 ha
  by_cases hr : restrictedWeight ≤ w
  · have ht : turnTime w = restrictedTime := if_pos hr
    rw [ht]
    exact ⟨hfinite, hnonneg, UInt64.le_refl _, iff_of_true rfl hr, fun hn => absurd hr hn⟩
  · have hlt : a < 10 ^ 15 := not_le.1 (mt hforbidden.2 hr)
    have ht : turnTime w = roundToWord (w * 1000.0) := if_neg hr
    have hprod : nearestDouble (a * 1000) ≤ 10 ^ 18 - 128 := by
      rw [← nearestDouble_below_restricted]
      refine nearestDouble_mono (by positivity) ?_
      linarith [le_of_lt_restricted hw ha hlt]
    have hfit : (10 ^ 18 - 128 : ℚ) < 2 ^ 1024 :=
      (by norm_num : (10 ^ 18 - 128 : ℚ) < 2 ^ 60).trans_le
        (pow_le_pow_right₀ one_le_two (by norm_num))
    have hvalue : exactValue? (w * 1000.0) = some (nearestDouble (a * 1000)) :=
      exactValue?_mul hw exactValue?_thousand ha (by norm_num) (hprod.trans_lt hfit)
    have hword : ((turnTime w).toNat : ℤ) = round (nearestDouble (a * 1000)) := by
      rw [ht]
      exact toNat_roundToWord hvalue (nearestDouble_nonneg (by positivity))
        (hprod.trans (by norm_num))
    have hbelow : turnTime w < restrictedTime := by
      have hround : round (nearestDouble (a * 1000)) < 10 ^ 18 := by
        rw [round_eq, Int.floor_lt]
        push_cast
        linarith
      rw [UInt64.lt_iff_toNat_lt]
      have hr : restrictedTime.toNat = 10 ^ 18 := rfl
      omega
    exact ⟨hfinite, hnonneg, UInt64.le_of_lt hbelow, iff_of_false (UInt64.ne_of_lt hbelow) hr,
      fun _ => ⟨_, hvalue, hword⟩⟩

end RoutingCosts
