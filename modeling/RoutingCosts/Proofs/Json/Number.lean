import RoutingCosts.Json.Writer
import RoutingCosts.Proofs.Json.Worth
import RoutingCosts.Proofs.Number.Whole

set_option autoImplicit false

namespace RoutingCosts.Json

section Value

namespace Numeral

theorem significand_whole (n : ℕ) : significand ⟨Nat.toDigits 10 n, ['0'], 0⟩ = n * 10 := by
  have hn : Nat.ofDigitChars 10 (Nat.toDigits 10 n) 0 = n := Nat.ofDigitChars_ten_toDigits
  rw [significand, Nat.ofDigitChars_append, hn, Nat.mul_comm]
  rfl

theorem isWorth_whole {n : ℕ} (h : n < 10 ^ 15) :
    IsWorth ⟨Nat.toDigits 10 n, ['0'], 0⟩ (n : ℚ) := by
  have hkeeps := keeps_significand (n := ⟨Nat.toDigits 10 n, ['0'], 0⟩)
    (by rw [significand_whole]; omega)
  rw [significand_whole] at hkeeps
  -- the last place of the significand is even, so it may have more than 53 places
  have hten : nearestDouble (n * 10 : ℕ) = (n * 10 : ℕ) := by
    have hplaces := nearestDouble_of_places (n := n * 5) (k := 1) (by omega) (by decide)
    have heven : ((n * 10 : ℕ) : ℚ) = (n * 5 : ℕ) * 2 ^ (1 : ℤ) := by
      push_cast
      ring
    rwa [← heven] at hplaces
  have hquotient : quotient (nearestDouble (n * 10 : ℕ)) 1 = n := by
    have hone : nearestDouble (10 ^ 1) = 10 ^ 1 :=
      (nearestDouble_of_exactValue? (exactValue?_powerOfTen_of_lt (by decide)) (by norm_num)).1
    have hdiv : ((n * 10 : ℕ) : ℚ) / 10 ^ 1 = n := by
      push_cast
      field_simp
    rw [quotient, if_pos (by decide), hten, hone, hdiv, nearestDouble_of_lt (by omega)]
  have hworth := IsWorth.down (k := 1) hkeeps one_pos
  rwa [hquotient] at hworth

end Numeral

theorem isPlain_whole {n : ℕ} (h : n < 10 ^ 15) : IsPlain n.toUInt64.toFloat (n : ℚ) := by
  have hword : n.toUInt64.toNat = n := UInt64.toNat_ofNat_of_lt (by simp only [UInt64.size]; omega)
  have hplain := isPlain_toFloat n.toUInt64
  rwa [hword, Numeral.nearestDouble_of_lt (by omega)] at hplain

end Value

section Number

variable {x : Float}

theorem isWritten_whole (n : ℕ) :
    Numeral.IsWritten ⟨Nat.toDigits 10 n, ['0'], 0⟩ (Nat.toDigits 10 n ++ ['.', '0']) := by
  have hwhole : Numeral.IsWholePart (Nat.toDigits 10 n) := by
    rcases Nat.eq_zero_or_pos n with rfl | hn
    · exact .zero
    · obtain ⟨c, cs, hcs, hc⟩ := exists_toDigits_eq_cons hn
      have hdigits (d : Char) (hd : d ∈ Nat.toDigits 10 n) : d.isDigit = true :=
        Nat.isDigit_of_mem_toDigits (by decide) (by decide) hd
      rw [hcs] at hdigits ⊢
      exact .digits hc ⟨List.cons_ne_nil c cs, hdigits⟩
  have hfraction : IsDigits ['0'] := ⟨List.cons_ne_nil _ _, List.forall_mem_singleton.2 rfl⟩
  exact .parts hwhole (.point hfraction) .absent

theorem exists_written_of_isWhole {x : Float} (h : IsWhole x) :
    ∃ (negative : Bool) (n : ℕ), n < 10 ^ 15 ∧
      writeNumber x = (if negative then ['-'] else []) ++ (Nat.toDigits 10 n ++ ['.', '0']) ∧
      x = if negative then -n.toUInt64.toFloat else n.toUInt64.toFloat := by
  obtain ⟨negative, m, n, q, hx, hvalue, hlt⟩ := h.exists_ofFloat
  refine ⟨negative, n, hlt, ?_, ?_⟩
  · have hlength : (Nat.toDigits 10 n).length ≤ 15 :=
      (Nat.length_toDigits_le_iff (by decide) (by decide)).2 hlt
    have hpos : numberLayout.isPositional (Nat.toDigits 10 n).length = true := by
      simp only [Layout.isPositional, numberLayout, Bool.and_eq_true, decide_eq_true_eq]
      omega
    rw [writeNumber, render_whole hx hvalue hlt hpos, String.toList_ofList]
    rfl
  · refine eq_of_ofFloat hx ?_ ?_
    · rw [hvalue]
      exact (isPlain_whole hlt).value
    · rintro rfl
      have hn : n = 0 := by
        rw [Nat.cast_zero, zero_mul] at hvalue
        exact_mod_cast hvalue.symm
      rw [hn]
      rfl

theorem isNumber_writeNumber (h : IsWhole x) : IsNumber x (writeNumber x) := by
  obtain ⟨negative, n, hlt, hwritten, hx⟩ := exists_written_of_isWhole h
  have hworth := Numeral.isWorth_whole hlt
  rw [hwritten, hx]
  cases negative with
  | false => exact .unsigned (isWritten_whole n) hworth (isPlain_whole hlt)
  | true => exact .negative (isWritten_whole n) hworth (isPlain_whole hlt)

theorem writeNumber_of_not_isFinite {x : Float} (h : x.isFinite = false) :
    writeNumber x = ['n', 'u', 'l', 'l'] := by
  rw [← isSome_exactValue?, exactValue?] at h
  rw [writeNumber, Layout.render]
  cases hx : Binary.ofFloat x with
  | undefined => decide
  | infinite negative => cases negative <;> decide
  | finite negative m q => rw [hx] at h; cases h

end Number

end RoutingCosts.Json
