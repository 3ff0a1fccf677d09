import RoutingCosts.Proofs.Json.Reading

set_option autoImplicit false

namespace RoutingCosts.Json

section Form

theorem takeWhile_isDigit_append (ds rest : List Char) (hds : ∀ d ∈ ds, d.isDigit = true)
    (hrest : ∀ c ∈ rest.head?, c.isDigit = false) :
    (ds ++ rest).takeWhile Char.isDigit = ds ∧ (ds ++ rest).dropWhile Char.isDigit = rest := by
  rw [List.takeWhile_append_of_pos hds, List.dropWhile_append_of_pos hds]
  cases rest with
  | nil => exact ⟨List.append_nil ds, rfl⟩
  | cons c rest =>
    have hc : c.isDigit = false := hrest c rfl
    rw [List.takeWhile_cons_of_neg (Bool.not_eq_true _ ▸ hc),
      List.dropWhile_cons_of_neg (Bool.not_eq_true _ ▸ hc), List.append_nil]
    exact ⟨rfl, rfl⟩

theorem head_of_endsNumber {rest : List Char} (h : endsNumber rest = true) :
    ∀ c ∈ rest.head?, c.isDigit = false ∧ c ≠ '.' ∧ c ≠ 'e' ∧ c ≠ 'E' := by
  intro c hc
  cases rest with
  | nil => cases hc
  | cons d rest =>
    cases hc
    simpa [endsNumber, and_assoc] using h

namespace Numeral

theorem digitsValue_eq (ds : List Char) : digitsValue ds = Nat.ofDigitChars 10 ds 0 := by
  rw [digitsValue]
  generalize 0 = n
  induction ds generalizing n with
  | nil => rfl
  | cons d ds ih => rw [List.foldl_cons, ih, Nat.ofDigitChars_cons, Nat.mul_comm]

theorem readDigits_append {ds rest : List Char} (h : IsDigits ds)
    (hrest : ∀ c ∈ rest.head?, c.isDigit = false) : readDigits (ds ++ rest) = .ok (ds, rest) := by
  have hsplit := takeWhile_isDigit_append ds rest h.2 hrest
  cases ds with
  | nil => exact absurd rfl h.1
  | cons d ds => simp only [readDigits, hsplit]

variable {n : Numeral} {ds cs rest : List Char} {e : ℤ}

theorem IsWholePart.readWhole_eq (h : IsWholePart ds)
    (hrest : ∀ c ∈ rest.head?, c.isDigit = false) : readWhole (ds ++ rest) = .ok (ds, rest) := by
  cases h with
  | zero =>
    cases rest with
    | nil => rfl
    | cons c rest => simp [readWhole, hrest c rfl]
  | @digits d ds nonzero digits =>
    obtain ⟨hd, hds⟩ := List.forall_mem_cons.1 digits.2
    have hsplit := takeWhile_isDigit_append ds rest hds hrest
    simp only [List.cons_append, readWhole, nonzero, hd, hsplit, if_false, if_true]

theorem IsFractionPart.readFraction_eq (h : IsFractionPart ds cs)
    (hrest : ∀ c ∈ rest.head?, c.isDigit = false ∧ c ≠ '.') :
    readFraction (cs ++ rest) = .ok (ds, rest) := by
  cases h with
  | absent =>
    rw [List.nil_append]
    unfold readFraction
    split
    · exact absurd rfl (hrest _ rfl).2
    · rfl
  | point digits => exact readDigits_append digits fun c hc => (hrest c hc).1

theorem IsPowerPart.readPower_eq (h : IsPowerPart e cs) (hrest : endsNumber rest = true) :
    readPower (cs ++ rest) = .ok (e, rest) := by
  have hread {ds : List Char} (digits : IsDigits ds) : readDigits (ds ++ rest) = .ok (ds, rest) :=
    readDigits_append digits fun c hc => (head_of_endsNumber hrest c hc).1
  cases h with
  | absent =>
    cases rest with
    | nil => rfl
    | cons c rest =>
      obtain ⟨-, -, he, hE⟩ := head_of_endsNumber hrest c rfl
      rw [List.nil_append, readPower, if_neg (not_or.2 ⟨he, hE⟩)]
  | @bare c ds mark digits =>
    have hsign : powerSign (ds ++ rest) = (false, ds ++ rest) := by
      obtain ⟨d, ds, rfl⟩ := List.exists_cons_of_ne_nil digits.1
      have hd := digits.2 d List.mem_cons_self
      unfold powerSign
      split
      · rename_i heq
        rw [List.cons_append, List.cons.injEq] at heq
        rw [heq.1] at hd
        exact absurd hd (by decide)
      · rename_i heq
        rw [List.cons_append, List.cons.injEq] at heq
        rw [heq.1] at hd
        exact absurd hd (by decide)
      · rfl
    simp only [List.cons_append, readPower, mark, if_true, hsign, hread digits, digitsValue_eq,
      Bool.false_eq_true, if_false]
  | plus mark digits =>
    simp only [List.cons_append, readPower, mark, if_true, powerSign, hread digits, digitsValue_eq,
      Bool.false_eq_true, if_false]
  | minus mark digits =>
    simp only [List.cons_append, readPower, mark, if_true, powerSign, hread digits, digitsValue_eq]

theorem IsPowerPart.head_append (h : IsPowerPart e cs) (hrest : endsNumber rest = true) :
    ∀ c ∈ (cs ++ rest).head?, c.isDigit = false ∧ c ≠ '.' := by
  have hmark {d : Char} (mark : d = 'e' ∨ d = 'E') (tail : List Char) :
      ∀ c ∈ (d :: tail).head?, c.isDigit = false ∧ c ≠ '.' := by
    rintro c ⟨rfl⟩
    rcases mark with rfl | rfl <;> decide
  cases h with
  | absent =>
    intro c hc
    obtain ⟨hdigit, hpoint, -⟩ := head_of_endsNumber hrest c hc
    exact ⟨hdigit, hpoint⟩
  | bare mark digits => exact hmark mark _
  | plus mark digits => exact hmark mark _
  | minus mark digits => exact hmark mark _

theorem IsFractionPart.head_append (h : IsFractionPart ds cs)
    (hrest : ∀ c ∈ rest.head?, c.isDigit = false) :
    ∀ c ∈ (cs ++ rest).head?, c.isDigit = false := by
  cases h with
  | absent => exact hrest
  | point digits =>
    rintro c ⟨rfl⟩
    rfl

theorem IsWritten.read_eq (h : n.IsWritten cs) (hrest : endsNumber rest = true) :
    read (cs ++ rest) = .ok (n, rest) := by
  cases h with
  | @parts fs ps whole fraction power =>
    have hpower := power.head_append hrest
    have hfraction := fraction.head_append fun c hc => (hpower c hc).1
    simp only [read, List.append_assoc, whole.readWhole_eq hfraction,
      fraction.readFraction_eq hpower, power.readPower_eq hrest]

theorem IsWritten.exists_isDigit (h : n.IsWritten cs) :
    ∃ d tail, cs = d :: tail ∧ d.isDigit = true := by
  cases h with
  | parts whole fraction power =>
    generalize hds : n.whole = ds at whole
    cases whole with
    | zero => exact ⟨_, _, rfl, rfl⟩
    | digits nonzero digits => exact ⟨_, _, rfl, digits.2 _ List.mem_cons_self⟩

end Numeral

end Form

section Number

variable {cs : List Char}

def IsNumberStart (d : Char) : Prop := d = '-' ∨ d.isDigit = true

theorem IsNumberStart.ne {d : Char} (h : IsNumberStart d) {c : Char}
    (hminus : c ≠ '-') (hdigit : c.isDigit = false) : d ≠ c := by
  rintro rfl
  rcases h with h | h
  · exact hminus h
  · rw [hdigit] at h
    cases h

theorem IsNumberStart.isBlank_eq {d : Char} (h : IsNumberStart d) : isBlank d = false := by
  simp only [isBlank, Bool.or_eq_false_iff, beq_eq_false_iff_ne]
  exact ⟨⟨⟨h.ne (by decide) rfl, h.ne (by decide) rfl⟩, h.ne (by decide) rfl⟩,
    h.ne (by decide) rfl⟩

theorem IsNumeral.exists_start (h : IsNumeral cs) : ∃ d tail, cs = d :: tail ∧ IsNumberStart d := by
  cases h with
  | unsigned written =>
    obtain ⟨d, tail, rfl, hd⟩ := written.exists_isDigit
    exact ⟨d, tail, rfl, .inr hd⟩
  | negative written => exact ⟨_, _, rfl, .inl rfl⟩

theorem IsNumeral.startsUnlike (h : IsNumeral cs) {c : Char} (hminus : c ≠ '-')
    (hdigit : c.isDigit = false) : StartsUnlike c cs := by
  obtain ⟨d, tail, rfl, hd⟩ := h.exists_start
  exact ⟨d, tail, rfl, hd.isBlank_eq, hd.ne hminus hdigit⟩

theorem IsNumeral.skipNumber_eq (h : IsNumeral cs) {rest : List Char}
    (hrest : endsNumber rest = true) : skipNumber (cs ++ rest) = .ok rest := by
  cases h with
  | unsigned written =>
    have hread := written.read_eq hrest
    obtain ⟨d, tail, rfl, hd⟩ := written.exists_isDigit
    rw [skipNumber, hread]
    intro minus hminus
    rw [List.cons_append, List.cons.injEq] at hminus
    rw [hminus.1] at hd
    exact absurd hd (by decide)
  | negative written =>
    simp only [skipNumber, List.cons_append, written.read_eq hrest]

end Number

end RoutingCosts.Json
