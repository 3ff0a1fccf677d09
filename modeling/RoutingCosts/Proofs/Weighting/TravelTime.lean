import RoutingCosts.Proofs.Number.Sign
import RoutingCosts.Proofs.Weighting.Bounds
import RoutingCosts.Proofs.Weighting.Verdict

set_option autoImplicit false

namespace RoutingCosts

section Milliseconds

variable {d e : Meters} {v w : Kmh} {a b : WithTop ℚ}

theorem exists_exactValue?_perHour : ∃ k, exactValue? 3600.0 = some k ∧ 0 < k :=
  exists_exactValue?_of_pos (by decide) (by decide)

theorem hasSign_milliseconds (hd : HasSign .negative d.value) (hv : v.IsUsable) :
    HasSign .negative (d.milliseconds v) := by
  obtain ⟨k, hk, hkpos⟩ := exists_exactValue?_perHour
  obtain ⟨q, hq, hqpos⟩ := hv.exists_exactValue?
  exact (hd.mul hk hkpos).div hq hqpos

theorem exists_isAmount_milliseconds (hd : IsAmount d.value a) (hv : v.IsUsable) :
    ∃ c, IsAmount (d.milliseconds v) c := by
  obtain ⟨k, hk, hkpos⟩ := exists_exactValue?_perHour
  obtain ⟨q, hq, hqpos⟩ := hv.exists_exactValue?
  exact ⟨_, (hd.mul hk hkpos).div hq hqpos⟩

theorem milliseconds_le_milliseconds (hd : IsAmount d.value a) (he : IsAmount e.value b)
    (hv : v.IsUsable) (hw : w.IsUsable) (longer : a ≤ b) (slower : w.value ≤ v.value) :
    d.milliseconds v ≤ e.milliseconds w := by
  obtain ⟨k, hk, hkpos⟩ := exists_exactValue?_perHour
  obtain ⟨p, hp, hppos⟩ := hv.exists_exactValue?
  obtain ⟨q, hq, hqpos⟩ := hw.exists_exactValue?
  have hspeed : q ≤ p := (le_iff_of_exactValue? hq hp hqpos.le hppos.le).1 slower
  exact (hd.mul hk hkpos).div_le_div (he.mul hk hkpos) hq hp hqpos
    (rounded_mul_mono hd.zero_le hkpos longer) hspeed

theorem roundToWord_milliseconds_le (hv : v.IsUsable) (hw : w.IsUsable) (longer : d.value ≤ e.value)
    (slower : w.value ≤ v.value) :
    roundToWord (d.milliseconds v) ≤ roundToWord (e.milliseconds w) := by
  obtain ⟨hdefined, hdefined'⟩ := isNaN_eq_false_of_le longer
  by_cases hneg : d.value < 0
  · rw [(hasSign_milliseconds (hasSign_of_lt hneg) hv).roundToWord_eq]
    exact UInt64.zero_le
  · obtain ⟨a, hd⟩ := exists_isAmount hdefined hneg
    have hneg' : ¬ e.value < 0 := fun h => hd.not_le_of_neg h longer
    obtain ⟨b, he⟩ := exists_isAmount hdefined' hneg'
    have hle := milliseconds_le_milliseconds hd he hv hw ((hd.le_iff he).1 longer) slower
    obtain ⟨_, hx⟩ := exists_isAmount_milliseconds hd hv
    obtain ⟨_, hy⟩ := exists_isAmount_milliseconds he hw
    exact hx.roundToWord_le hy ((hx.le_iff hy).1 hle)

end Milliseconds

namespace Vehicle

variable {v : Vehicle} {e e' : EdgeView} {d d' : Direction} {t t' : UInt64}

theorem of_edgeTime_eq_ok (h : v.edgeTime e d = .ok t) :
    Kmh.IsUsable ⟨v.speedOn e (e.effective d)⟩ ∧
      roundToWord (e.distance.milliseconds ⟨v.speedOn e (e.effective d)⟩) = t := by
  rw [edgeTime_eq_timeBy] at h
  cases hx : v.verdict e (e.effective d) with
  | closed => rw [hx] at h; cases h
  | badSpeed => rw [hx] at h; cases h
  | zeroSpeed => rw [hx] at h; cases h
  | passable =>
    rw [hx] at h
    cases h
    obtain ⟨-, hfinite, hpos⟩ := finds_iff.2 hx.symm
    exact ⟨⟨hfinite, hpos⟩, rfl⟩

theorem edgeTime_le_edgeTime (h : v.edgeTime e d = .ok t) (h' : v.edgeTime e' d' = .ok t')
    (longer : e.distance.value ≤ e'.distance.value)
    (slower : v.speedOn e' (e'.effective d') ≤ v.speedOn e (e.effective d)) : t ≤ t' := by
  obtain ⟨hv, rfl⟩ := of_edgeTime_eq_ok h
  obtain ⟨hw, rfl⟩ := of_edgeTime_eq_ok h'
  exact roundToWord_milliseconds_le hv hw longer slower

/-- At the same speed the longer of two edges takes no less time, and over the same length the
    faster takes no more. -/
theorem edgeTime_monotone (h : v.edgeTime e d = .ok t) (h' : v.edgeTime e' d' = .ok t') :
    ((v.speedOn e (e.effective d) == v.speedOn e' (e'.effective d')) = true →
      e.distance.value ≤ e'.distance.value → t ≤ t') ∧
    ((e.distance.value == e'.distance.value) = true →
      v.speedOn e (e.effective d) ≤ v.speedOn e' (e'.effective d') → t' ≤ t) :=
  ⟨fun hspeed longer => edgeTime_le_edgeTime h h' longer (le_of_float_beq hspeed).2,
    fun hlength faster => edgeTime_le_edgeTime h' h (le_of_float_beq hlength).2 faster⟩

theorem edgeTime_monotone_at_extremes :
    let car : Vehicle := ⟨"car", ⟨120⟩, true⟩
    let reading (speed : Float) (d : Direction) : PropertyMap :=
      (PropertyMap.empty.setFlag car.access d true).setNumber car.speed d speed
    let negative := (StoredEdge.mk 1 1 2 ⟨-5⟩ (reading 50 .forward)).forward.view
    let endless := (StoredEdge.mk 2 1 2 ⟨1e306⟩ (reading 50 .forward)).backward.view
    let slow := (StoredEdge.mk 3 1 2 ⟨1e304⟩ (reading 50 .forward)).forward.view
    let fast := (StoredEdge.mk 4 2 2 ⟨1e304⟩ (reading 5e307 .forward)).forward.view
    car.edgeTime negative .forward = .ok 0 ∧ car.edgeTime endless .backward = .ok (2 ^ 64 - 1) ∧
      car.edgeTime slow .forward = .ok (2 ^ 64 - 1) ∧ car.edgeTime fast .backward = .ok 1 ∧
        (0 : UInt64) ≤ 2 ^ 64 - 1 ∧ (1 : UInt64) ≤ 2 ^ 64 - 1 := by
  intro car reading negative endless slow fast
  have hnegative : car.edgeTime negative .forward = .ok 0 := by decide +kernel
  have hendless : car.edgeTime endless .backward = .ok (2 ^ 64 - 1) := by decide +kernel
  have hslow : car.edgeTime slow .forward = .ok (2 ^ 64 - 1) := by decide +kernel
  have hfast : car.edgeTime fast .backward = .ok 1 := by decide +kernel
  exact ⟨hnegative, hendless, hslow, hfast,
    (edgeTime_monotone hnegative hendless).1 (by decide +kernel) (by decide +kernel),
    (edgeTime_monotone hslow hfast).2 (by decide +kernel) (by decide +kernel)⟩

end Vehicle

end RoutingCosts
