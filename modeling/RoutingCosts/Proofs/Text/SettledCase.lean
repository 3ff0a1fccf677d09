import RoutingCosts.Text.LowerCase

set_option autoImplicit false

namespace RoutingCosts.Text

section Runs

/-- No character lands where `s` begins. Two runs may share an interval if both go over every other
    character of it and the first one lands between the characters of the second. -/
def CaseRun.landsClearOf (r s : CaseRun) : Bool :=
  (r.target + (r.last - r.first)).blt s.first || s.last.blt r.target ||
    ((r.step == 2 || r.first == r.last) && s.step == 2 && (r.target + s.first) % 2 == 1)

variable {r s : CaseRun} {n : Nat}

theorem CaseRun.covers_iff :
    r.covers n = true ↔ r.first ≤ n ∧ n ≤ r.last ∧ (n - r.first) % r.step = 0 := by
  simp only [covers, Bool.and_eq_true, decide_eq_true_eq, beq_iff_eq, and_assoc]

theorem CaseRun.covers_eq_false_of_landsClearOf (h : r.landsClearOf s = true)
    (hn : r.covers n = true) : s.covers (r.target + (n - r.first)) = false := by
  rw [covers_iff] at hn
  rw [← Bool.not_eq_true, covers_iff]
  simp only [landsClearOf, Bool.or_eq_true, Bool.and_eq_true, Nat.blt_eq, beq_iff_eq] at h
  rintro ⟨hfirst, hlast, hstep⟩
  rcases h with (h | h) | ⟨⟨hr | hr, hs⟩, hodd⟩
  · omega
  · omega
  · rw [hr] at hn
    rw [hs] at hstep
    omega
  · rw [hs] at hstep
    omega

def CaseRun.landsOnChars (r : CaseRun) : Bool :=
  (r.target + (r.last - r.first)).blt 0xD800 ||
    (Nat.blt 0xDFFF r.target && (r.target + (r.last - r.first)).blt 0x110000)

theorem CaseRun.toNat_of_landsOnChars (h : r.landsOnChars = true) (hn : r.covers n = true) :
    (Char.ofNat (r.target + (n - r.first))).toNat = r.target + (n - r.first) := by
  rw [covers_iff] at hn
  simp only [landsOnChars, Bool.or_eq_true, Bool.and_eq_true, Nat.blt_eq] at h
  have hvalid : (r.target + (n - r.first)).isValidChar := by
    unfold Nat.isValidChar
    omega
  rw [Char.ofNat, dif_pos hvalid]
  rfl

/-- The capital I with a dot above as a run of its own; it is no part of the mapping. -/
def dottedRun : CaseRun := ⟨0x130, 0x130, 1, 0x69⟩

theorem runs_land_clear :
    (lowerCaseRuns.all fun r =>
      r.landsOnChars && (dottedRun :: lowerCaseRuns).all fun s => r.landsClearOf s) = true := by
  decide +kernel

end Runs

structure IsSettled (c : Char) : Prop where
  ne_dotted : c ≠ 'İ'
  not_covered : ∀ r ∈ lowerCaseRuns, r.covers c.toNat = false

variable {c d : Char}

instance (c : Char) : Decidable (IsSettled c) :=
  decidable_of_iff (c ≠ 'İ' ∧ ∀ r ∈ lowerCaseRuns, r.covers c.toNat = false)
    ⟨fun h => ⟨h.1, h.2⟩, fun h => ⟨h.ne_dotted, h.not_covered⟩⟩

theorem find?_lowerCaseRuns_eq_none_iff {n : Nat} :
    lowerCaseRuns.find? (·.covers n) = none ↔ ∀ r ∈ lowerCaseRuns, r.covers n = false := by
  simp only [List.find?_eq_none, Bool.not_eq_true]

/-- A character that no run covers stays, and a run takes its characters clear of all runs. -/
theorem simpleLowerCase_cases (c : Char) :
    (simpleLowerCase c = c ∧ ∀ r ∈ lowerCaseRuns, r.covers c.toNat = false) ∨
      ∀ s ∈ dottedRun :: lowerCaseRuns, s.covers (simpleLowerCase c).toNat = false := by
  unfold simpleLowerCase
  split
  · rename_i r hr
    have hclear := List.all_eq_true.1 runs_land_clear r (List.mem_of_find?_eq_some hr)
    rw [Bool.and_eq_true, List.all_eq_true] at hclear
    have hcovers : r.covers c.toNat = true := by simpa using List.find?_some hr
    refine .inr fun s hs => ?_
    rw [CaseRun.toNat_of_landsOnChars hclear.1 hcovers]
    exact CaseRun.covers_eq_false_of_landsClearOf (hclear.2 s hs) hcovers
  · rename_i hr
    exact .inl ⟨rfl, find?_lowerCaseRuns_eq_none_iff.1 hr⟩

theorem isSettled_simpleLowerCase (h : c ≠ 'İ') : IsSettled (simpleLowerCase c) := by
  rcases simpleLowerCase_cases c with ⟨heq, hfree⟩ | hclear
  · rw [heq]
    exact ⟨h, hfree⟩
  · obtain ⟨hdotted, hfree⟩ := List.forall_mem_cons.1 hclear
    refine ⟨fun heq => ?_, hfree⟩
    rw [heq] at hdotted
    exact absurd hdotted (by decide)

theorem IsSettled.ne_sigma (h : IsSettled c) : c ≠ 'Σ' := by
  rintro rfl
  have hcovered : ¬ ∀ r ∈ lowerCaseRuns, r.covers 'Σ'.toNat = false := by decide +kernel
  exact hcovered h.not_covered

theorem IsSettled.lowerCaseOf_eq (h : IsSettled c) (before after : List Char) :
    lowerCaseOf before c after = [c] := by
  have hlower : simpleLowerCase c = c := by
    rw [simpleLowerCase, find?_lowerCaseRuns_eq_none_iff.2 h.not_covered]
  rw [lowerCaseOf, if_neg h.ne_sigma, if_neg h.ne_dotted, hlower]

theorem isSettled_of_mem_lowerCaseOf {before after : List Char}
    (h : d ∈ lowerCaseOf before c after) : IsSettled d := by
  have hsigmas : ∀ b : Bool, IsSettled (if b then 'ς' else 'σ') := by decide +kernel
  have hdotted : IsSettled 'i' ∧ IsSettled '\u0307' := by decide +kernel
  unfold lowerCaseOf at h
  split at h
  · rw [List.mem_singleton.1 h]
    exact hsigmas _
  · split at h
    · rcases List.mem_cons.1 h with rfl | h
      · exact hdotted.1
      · rw [List.mem_singleton.1 h]
        exact hdotted.2
    · rename_i hne
      rw [List.mem_singleton.1 h]
      exact isSettled_simpleLowerCase hne

theorem isSettled_of_mem_lowerCase {cs : List Char} (h : d ∈ lowerCase cs) : IsSettled d := by
  have hafter (before cs : List Char) (h : d ∈ lowerCaseAfter before cs) : IsSettled d := by
    induction cs generalizing before with
    | nil => cases h
    | cons c cs ih =>
      rcases List.mem_append.1 h with h | h
      · exact isSettled_of_mem_lowerCaseOf h
      · exact ih _ h
  exact hafter [] cs h

theorem lowerCase_eq_self {cs : List Char} (h : ∀ c ∈ cs, IsSettled c) : lowerCase cs = cs := by
  have hafter (before : List Char) : lowerCaseAfter before cs = cs := by
    induction cs generalizing before with
    | nil => rfl
    | cons c cs ih =>
      obtain ⟨hc, hcs⟩ := List.forall_mem_cons.1 h
      rw [lowerCaseAfter, hc.lowerCaseOf_eq, ih hcs]
      rfl
  exact hafter []

end RoutingCosts.Text
