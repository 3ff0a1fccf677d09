import RoutingCosts.Number.Layout
import RoutingCosts.Proofs.Number.Value

set_option autoImplicit false

open Float.Model
open Float.Model.UnpackedFloat hiding round

namespace RoutingCosts

/-- A double that stands for an integer of at most fifteen digits. -/
def IsWhole (x : Float) : Prop := ∃ n : ℤ, exactValue? x = some (n : ℚ) ∧ |n| < 10 ^ 15

section Intervals

theorem Canonical.exponent_le {m : ℕ} {q : ℤ} (h : Canonical m q)
    (hlt : (m : ℚ) * 2 ^ q < ((2 ^ 50 : ℕ) : ℚ)) : q ≤ -3 := by
  by_contra hq
  have hfull : 2 ^ 52 ≤ m := h.full.resolve_left (by omega)
  have hm : ((2 ^ 52 : ℕ) : ℚ) ≤ m := Nat.cast_le.2 hfull
  have hle : ((2 ^ 50 : ℕ) : ℚ) ≤ m * 2 ^ q := by
    calc
      ((2 ^ 50 : ℕ) : ℚ) = ((2 ^ 52 : ℕ) : ℚ) * 2 ^ (-2 : ℤ) := by norm_num
      _ ≤ (m : ℚ) * 2 ^ q :=
        mul_le_mul hm (zpow_le_zpow_right₀ one_le_two (by omega)) (two_zpow_pos _).le
          (Nat.cast_nonneg _)
  exact absurd hlt (not_lt.2 hle)

namespace Interval

/-- The interval is around `n`, and its ends are less than one away. -/
structure Pins (i : Interval) (n : ℕ) : Prop where
  value : i.value = n * i.denominator
  low_lt : i.low < i.value
  lt_high : i.value < i.high
  near_low : i.value < i.low + i.denominator
  near_high : i.high < i.value + i.denominator

variable {i : Interval} {n : ℕ}

theorem inUnits_zero (i : Interval) : i.inUnits 0 = i := by
  simp [inUnits]

theorem contains_inUnits (i : Interval) (k j : ℕ) :
    (i.inUnits k).contains j = i.contains (j * 10 ^ k) := by
  have hpow : j * (i.denominator * 10 ^ k) = j * 10 ^ k * i.denominator := by ring
  simp [inUnits, contains, hpow]

theorem bounds_of_contains {j : ℕ} (hlow : i.low ≤ i.high) (h : i.contains j = true) :
    i.low ≤ j * i.denominator ∧ j * i.denominator ≤ i.high := by
  simp only [contains, Bool.or_eq_true, Bool.and_eq_true, decide_eq_true_eq, beq_iff_eq] at h
  omega

namespace Pins

theorem denominator_pos (h : i.Pins n) : 0 < i.denominator := by
  have hlow := h.low_lt
  have hnear := h.near_low
  omega

theorem value_div (h : i.Pins n) : i.value / i.denominator = n := by
  rw [h.value, Nat.mul_div_cancel n h.denominator_pos]

theorem contains_self (h : i.Pins n) : i.contains n = true := by
  have hlow := h.low_lt
  have hhigh := h.lt_high
  have hvalue := h.value
  simp only [contains, ← hvalue, decide_eq_true hlow, decide_eq_true hhigh, Bool.and_self,
    Bool.true_or]

theorem eq_of_contains (h : i.Pins n) {j : ℕ} (hj : i.contains j = true) : j = n := by
  have hlow := h.low_lt
  have hhigh := h.lt_high
  have hvalue := h.value
  have hnear := h.near_low
  have hnear' := h.near_high
  obtain ⟨hle, hge⟩ := bounds_of_contains (by omega) hj
  have hlt : j * i.denominator < (n + 1) * i.denominator := by rw [Nat.succ_mul]; omega
  have hgt : n * i.denominator < (j + 1) * i.denominator := by rw [Nat.succ_mul]; omega
  have hlt' : j < n + 1 := lt_of_mul_lt_mul_right hlt (Nat.zero_le _)
  have hgt' : n < j + 1 := lt_of_mul_lt_mul_right hgt (Nat.zero_le _)
  omega

theorem nearest?_eq (h : i.Pins n) (tie : TieRule) : i.nearest? tie = some n := by
  have hnext : i.contains (n + 1) = false := by
    rw [← Bool.not_eq_true]
    intro hc
    exact absurd (h.eq_of_contains hc) (Nat.succ_ne_self n)
  simp only [nearest?, h.value_div, h.contains_self, hnext]

theorem order_eq (h : i.Pins n) (hn : 0 < n) : i.order = (Nat.toDigits 10 n).length := by
  have hle : i.denominator ≤ i.value := by
    rw [h.value]
    exact Nat.le_mul_of_pos_left _ hn
  rw [order, if_pos hle, h.value_div]

end Pins

theorem pins_ofBinary {m : ℕ} {q : ℤ} (hm : 0 < m) (hshape : Canonical m q)
    (hvalue : (m : ℚ) * 2 ^ q = n) (hlt : n < 2 ^ 50) : (ofBinary m q).Pins n := by
  have hq : q ≤ -3 := hshape.exponent_le (by rw [hvalue]; exact Nat.cast_lt.2 hlt)
  obtain ⟨j, rfl⟩ : ∃ j : ℕ, q = -(j + 3 : ℕ) := ⟨(-q - 3).toNat, by omega⟩
  have hmant : m = n * 2 ^ (j + 3) := by
    rw [zpow_neg, zpow_natCast, ← div_eq_mul_inv, div_eq_iff (by positivity)] at hvalue
    exact_mod_cast hvalue
  have hscale : (-((j + 3 : ℕ) : ℤ) - 2).toNat = 0 := by omega
  have hplaces : (2 - -((j + 3 : ℕ) : ℤ)).toNat = j + 5 := by omega
  have hden : 2 ^ (j + 5) = 4 * 2 ^ (j + 3) := by ring
  have hroom : 2 ^ 3 ≤ 2 ^ (j + 3) := Nat.pow_le_pow_right two_pos (Nat.le_add_left 3 j)
  have hfour : 4 * m = n * (4 * 2 ^ (j + 3)) := by rw [hmant]; ring
  constructor
  all_goals simp only [ofBinary, hscale, hplaces, Nat.one_shiftLeft, hden]
  case value => omega
  case low_lt => split_ifs <;> omega
  case lt_high => omega
  case near_low => split_ifs <;> omega
  case near_high => omega

end Interval

end Intervals

section Digits

theorem toDigits_mul_ten {n : ℕ} (hn : 0 < n) :
    Nat.toDigits 10 (n * 10) = Nat.toDigits 10 n ++ ['0'] := by
  have h := Nat.toDigits_append_toDigits (b := 10) (d := 0) (by decide) hn (by decide)
  rw [Nat.toDigits_zero] at h
  rw [h, Nat.mul_comm n 10, Nat.add_zero]

theorem exists_toDigits_eq_cons {n : ℕ} (hn : 0 < n) :
    ∃ c cs, Nat.toDigits 10 n = c :: cs ∧ c ≠ '0' := by
  induction n using Nat.strongRecOn with
  | ind n ih =>
    rw [Nat.toDigits_eq_if (by decide)]
    split
    · rename_i hlt
      refine ⟨_, [], rfl, ?_⟩
      rw [Ne, Nat.digitChar_eq_zero]
      omega
    · rename_i hge
      obtain ⟨c, cs, hcs, hc⟩ := ih (n / 10) (by omega) (by omega)
      exact ⟨c, cs ++ [(n % 10).digitChar], by rw [hcs, List.cons_append], hc⟩

end Digits

section Trim

theorem trim_mul_ten {n : ℕ} (hn : 0 < n) (e : ℤ) :
    Decimal.trim (n * 10) e = Decimal.trim n (e + 1) := by
  rw [Decimal.trim, dif_pos ⟨by omega, Nat.mul_mod_left n 10⟩, Nat.mul_div_cancel n (by decide)]

theorem trim_mul_pow {n : ℕ} (hn : 0 < n) (k : ℕ) (e : ℤ) :
    Decimal.trim (n * 10 ^ k) e = Decimal.trim n (e + k) := by
  induction k generalizing e with
  | zero => rw [pow_zero, mul_one, Nat.cast_zero, add_zero]
  | succ k ih =>
    rw [pow_succ, ← mul_assoc, trim_mul_ten (Nat.mul_pos hn (Nat.pow_pos (by decide))), ih,
      Nat.cast_succ, add_assoc, add_comm (1 : ℤ)]

theorem decimal_trim {l : Layout} (n : ℕ) {e : ℤ} (he : 0 ≤ e)
    (hpos : l.isPositional (e + (Nat.toDigits 10 n).length) = true) :
    l.decimal (Decimal.trim n e) =
      Nat.toDigits 10 n ++ List.replicate e.toNat '0' ++
        (if l.wholePoint then ['.', '0'] else []) := by
  fun_induction Decimal.trim n e with
  | case1 n e h ih =>
    have hdiv : n / 10 * 10 = n := Nat.div_mul_cancel (Nat.dvd_of_mod_eq_zero h.2)
    have hdigits : Nat.toDigits 10 n = Nat.toDigits 10 (n / 10) ++ ['0'] := by
      rw [← toDigits_mul_ten (by omega), hdiv]
    have hlength : e + 1 + ((Nat.toDigits 10 (n / 10)).length : ℤ) =
        e + (Nat.toDigits 10 n).length := by
      rw [hdigits, List.length_append, List.length_singleton]
      push_cast
      ring
    have hzeros : (e + 1).toNat = e.toNat + 1 := by omega
    rw [ih (by omega) (by rw [hlength]; exact hpos), hzeros, List.replicate_succ, hdigits,
      List.append_assoc _ ['0'], List.singleton_append]
  | case2 n e h =>
    simp only [Layout.decimal, hpos, he, if_true]

end Trim

section Shortest

theorem mem_of_range_eq_append {n a : ℕ} {l₁ l₂ : List ℕ} (h : List.range n = l₁ ++ a :: l₂)
    {b : ℕ} (hb : b < a) : b ∈ l₁ := by
  have hsorted : (l₁ ++ a :: l₂).Pairwise (· < ·) := h ▸ List.pairwise_lt_range
  have ha : a < n := List.mem_range.1 (h ▸ List.mem_append_right l₁ List.mem_cons_self)
  have hmem : b ∈ l₁ ++ a :: l₂ := h ▸ List.mem_range.2 (hb.trans ha)
  rcases List.mem_append.1 hmem with hl | hr
  · exact hl
  · rcases List.mem_cons.1 hr with rfl | hr
    · exact absurd hb (lt_irrefl b)
    · have hab := List.rel_of_pairwise_cons (List.pairwise_append.1 hsorted).2.1 hr
      exact absurd hb hab.asymm

theorem findSome?_range_eq {α : Type} {f : ℕ → Option α} {bound k : ℕ} {a : α} (hk : k < bound)
    (hit : f k = some a) (early : ∀ j ≤ k, ∀ b, f j = some b → b = a) :
    (List.range bound).findSome? f = some a := by
  cases hfind : (List.range bound).findSome? f with
  | none =>
    have hmiss := List.findSome?_eq_none_iff.1 hfind k (List.mem_range.2 hk)
    rw [hit] at hmiss
    cases hmiss
  | some b =>
    obtain ⟨l₁, j, l₂, hl, hj, hbefore⟩ := List.findSome?_eq_some_iff.1 hfind
    have hle : j ≤ k := by
      by_contra hlt
      have hmiss := hbefore k (mem_of_range_eq_append hl (by omega))
      rw [hit] at hmiss
      cases hmiss
    rw [early j hle b hj]

theorem Interval.Pins.trim_eq {i : Interval} {n k t : ℕ} {tie : TieRule} (h : i.Pins n) (hn : 0 < n)
    (ht : (i.inUnits k).nearest? tie = some t) : Decimal.trim t k = Decimal.trim n 0 := by
  have hcontains := contains_of_nearest? ht
  rw [contains_inUnits] at hcontains
  have heq := h.eq_of_contains hcontains
  have ht₀ : 0 < t := Nat.pos_of_ne_zero (by rintro rfl; omega)
  rw [← heq, trim_mul_pow ht₀, zero_add]

theorem shortest_eq_trim {m n : ℕ} {q : ℤ} (tie : TieRule) (hshape : m = 0 ∨ Canonical m q)
    (hvalue : (m : ℚ) * 2 ^ q = n) (hlt : n < 10 ^ 15) :
    shortest tie m q = Decimal.trim n 0 := by
  rcases Nat.eq_zero_or_pos m with hm | hm
  · have hn : n = 0 := by
      rw [hm, Nat.cast_zero, zero_mul] at hvalue
      exact_mod_cast hvalue.symm
    rw [shortest, if_pos hm, hn, Decimal.trim, dif_neg (by decide)]
  have hn : 0 < n := by
    have h := mantissa_mul_pos q hm
    rw [hvalue] at h
    exact_mod_cast h
  have hpins : (Interval.ofBinary m q).Pins n :=
    Interval.pins_ofBinary hm (hshape.resolve_left hm.ne') hvalue (hlt.trans (by decide))
  have horder := hpins.order_eq hn
  have hlength : 0 < (Nat.toDigits 10 n).length := List.length_pos_of_ne_nil Nat.toDigits_ne_nil
  have hlength' : (Nat.toDigits 10 n).length ≤ 15 :=
    (Nat.length_toDigits_le_iff (by decide) (by decide)).2 hlt
  rw [shortest, if_neg hm.ne']
  simp only
  rw [findSome?_range_eq (k := (Nat.toDigits 10 n).length - 1) (a := Decimal.trim n 0) (by omega)]
  · -- on the grid of the units the number itself is found
    have hunits : (Interval.ofBinary m q).order - (((Nat.toDigits 10 n).length - 1 : ℕ) + 1) = 0 := by
      rw [horder]
      omega
    rw [hunits, Interval.inUnits_zero, hpins.nearest?_eq, Option.map_some]
  · -- and so it is on every coarser grid that has it
    intro j hj d hd
    obtain ⟨t, ht, rfl⟩ := Option.map_eq_some_iff.1 hd
    obtain ⟨k, hk⟩ : ∃ k : ℕ, (Interval.ofBinary m q).order - ((j : ℤ) + 1) = k :=
      ⟨(Nat.toDigits 10 n).length - 1 - j, by rw [horder]; omega⟩
    rw [hk] at ht ⊢
    exact hpins.trim_eq hn ht

end Shortest

section Render

theorem canonical_of_ofFloat {x : Float} {negative : Bool} {m : ℕ} {q : ℤ}
    (h : Binary.ofFloat x = .finite negative m q) : m = 0 ∨ Canonical m q := by
  unfold Binary.ofFloat at h
  split at h
  · cases h
  · cases h
  · cases h; exact .inl rfl
  · rename_i hu
    cases h
    exact .inr (canonical_of_unpack hu).1

theorem IsWhole.exists_ofFloat {x : Float} (h : IsWhole x) :
    ∃ (negative : Bool) (m n : ℕ) (q : ℤ), Binary.ofFloat x = .finite negative m q ∧
      (m : ℚ) * 2 ^ q = n ∧ n < 10 ^ 15 := by
  obtain ⟨z, hz, hlt⟩ := h
  unfold exactValue? at hz
  cases hx : Binary.ofFloat x with
  | undefined => rw [hx] at hz; cases hz
  | infinite negative => rw [hx] at hz; cases hz
  | finite negative m q =>
    rw [hx, Binary.value?, Option.some.injEq] at hz
    have hn : (z.natAbs : ℤ) < 10 ^ 15 := by rwa [Int.natCast_natAbs]
    refine ⟨negative, m, z.natAbs, q, rfl, ?_, by exact_mod_cast hn⟩
    have hnonneg : 0 ≤ (m : ℚ) * 2 ^ q := mul_nonneg (Nat.cast_nonneg m) (two_zpow_pos q).le
    rw [Nat.cast_natAbs, Int.cast_abs, ← hz]
    cases negative with
    | false => exact (abs_of_nonneg hnonneg).symm
    | true => exact ((abs_neg _).trans (abs_of_nonneg hnonneg)).symm

/-- A whole number is written with all of its digits. -/
theorem render_whole {l : Layout} {x : Float} {negative : Bool} {m n : ℕ} {q : ℤ}
    (hx : Binary.ofFloat x = .finite negative m q) (hvalue : (m : ℚ) * 2 ^ q = n)
    (hlt : n < 10 ^ 15) (hpos : l.isPositional (Nat.toDigits 10 n).length = true) :
    l.render x = .ofList ((if negative then ['-'] else []) ++
      (Nat.toDigits 10 n ++ if l.wholePoint then ['.', '0'] else [])) := by
  have hdecimal := decimal_trim (l := l) n le_rfl (by rw [zero_add]; exact hpos)
  simp only [Layout.render, hx, shortest_eq_trim l.tie (canonical_of_ofFloat hx) hvalue hlt, hdecimal,
    Int.toNat_zero, List.replicate_zero, List.append_nil]

end Render

end RoutingCosts
