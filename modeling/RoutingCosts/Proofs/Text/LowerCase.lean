import RoutingCosts.Text.LowerCase

set_option autoImplicit false

namespace RoutingCosts.Text

/-- No letter is seen past the character, which is in lower case itself. -/
structure Separates (c : Char) : Prop where
  notCased : isCased c = false
  notIgnorable : isCaseIgnorable c = false
  lowerCaseOf_eq : ∀ before after, lowerCaseOf before c after = [c]

variable {c : Char}

theorem Separates.startsCased_append (h : Separates c) (cs ds : List Char) :
    startsCased (cs ++ c :: ds) = startsCased cs := by
  induction cs with
  | nil => simp [startsCased, h.notCased, h.notIgnorable]
  | cons d cs ih =>
    cases hd : isCaseIgnorable d with
    | true =>
      have hskip (es : List Char) : startsCased (d :: es) = startsCased es := by
        simp [startsCased, hd]
      rw [List.cons_append, hskip, hskip, ih]
    | false => simp [startsCased, hd]

theorem lowerCaseOf_congr {before before' after after' : List Char} (d : Char)
    (hbefore : startsCased before = startsCased before')
    (hafter : startsCased after = startsCased after') :
    lowerCaseOf before d after = lowerCaseOf before' d after' := by
  unfold lowerCaseOf
  rw [hbefore, hafter]

theorem Separates.lowerCaseAfter_before (h : Separates c) (seen before cs : List Char) :
    lowerCaseAfter (seen ++ c :: before) cs = lowerCaseAfter seen cs := by
  induction cs generalizing seen with
  | nil => rfl
  | cons d cs ih =>
    rw [lowerCaseAfter, lowerCaseAfter, ← List.cons_append, ih,
      lowerCaseOf_congr d (h.startsCased_append seen before) rfl]

theorem Separates.lowerCaseAfter_append (h : Separates c) (before cs ds : List Char) :
    lowerCaseAfter before (cs ++ c :: ds) = lowerCaseAfter before cs ++ c :: lowerCase ds := by
  induction cs generalizing before with
  | nil =>
    calc
      lowerCaseAfter before (c :: ds) =
          lowerCaseOf before c ds ++ lowerCaseAfter (c :: before) ds := rfl
      _ = c :: lowerCase ds := by
        rw [h.lowerCaseOf_eq, ← List.nil_append (c :: before), h.lowerCaseAfter_before]
        rfl
  | cons d cs ih =>
    rw [List.cons_append, lowerCaseAfter, lowerCaseAfter, ih, List.append_assoc,
      lowerCaseOf_congr d rfl (h.startsCased_append cs ds)]

theorem Separates.lowerCase_append (h : Separates c) (cs ds : List Char) :
    lowerCase (cs ++ c :: ds) = lowerCase cs ++ c :: lowerCase ds :=
  h.lowerCaseAfter_append [] cs ds

theorem separates_bar : Separates '|' where
  notCased := by decide
  notIgnorable := by decide +kernel
  lowerCaseOf_eq _ _ := by
    have hlower : simpleLowerCase '|' = '|' := by decide +kernel
    simp [lowerCaseOf, hlower]

end RoutingCosts.Text
