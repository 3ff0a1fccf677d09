import RoutingCosts.Proofs.Json.Numeral
import RoutingCosts.Proofs.Json.Record

set_option autoImplicit false

namespace RoutingCosts.Json

section Steps

variable {opened : List Bracket} {b : Bracket} {closed : Bool} {c : Char} {cs tail rest : List Char}

theorem skipFrom_scalar (hs : skipBlank cs = c :: tail) (hb : bracket? c = none)
    (h : skipScalar c tail = .ok rest) : skipFrom opened true cs = skipFrom opened false rest := by
  conv_lhs => rw [skipFrom.eq_def]
  rw [if_pos rfl]
  split
  · rename_i hs'; rw [hs] at hs'; cases hs'
  · rename_i hs'
    rw [hs] at hs'
    cases hs'
    split
    · rename_i hb'; rw [hb] at hb'; cases hb'
    · split
      · rename_i h'; rw [h] at h'; cases h'
      · rename_i h'; rw [h] at h'; cases h'; rfl

theorem skipFrom_open (hs : skipBlank cs = c :: tail) (hb : bracket? c = some b)
    (h : skipToItem b true tail = .ok (closed, rest)) :
    skipFrom opened true cs =
      if closed then skipFrom opened false rest else skipFrom (b :: opened) true rest := by
  conv_lhs => rw [skipFrom.eq_def]
  rw [if_pos rfl]
  split
  · rename_i hs'; rw [hs] at hs'; cases hs'
  · rename_i hs'
    rw [hs] at hs'
    cases hs'
    split
    · rename_i hb'
      rw [hb] at hb'
      cases hb'
      split
      · rename_i h'; rw [h] at h'; cases h'
      · rename_i h'; rw [h] at h'; cases h'; rfl
    · rename_i hb'; rw [hb] at hb'; cases hb'

theorem skipFrom_next (h : skipToItem b false cs = .ok (closed, rest)) :
    skipFrom (b :: opened) false cs =
      if closed then skipFrom opened false rest else skipFrom (b :: opened) true rest := by
  conv_lhs => rw [skipFrom]
  rw [if_neg Bool.false_ne_true]
  split
  · rename_i h'; rw [h] at h'; cases h'
  · rename_i h'; rw [h] at h'; cases h'; rfl

theorem skipFrom_end (cs : List Char) : skipFrom [] false cs = .ok cs := by
  rw [skipFrom, if_neg Bool.false_ne_true]

end Steps

/-- The value is passed over to its end, and the brackets open around it stay open. -/
def PassesOver (value : List Char) : Prop :=
  ∀ opened ws rest, IsBlanks ws → endsNumber rest = true →
    skipFrom opened true (ws ++ (value ++ rest)) = skipFrom opened false rest

section Items

variable {b : Bracket} {value piece ws : List Char} {values pieces : List (List Char)}

theorem Bracket.closing_ne (b : Bracket) :
    isBlank b.closing = false ∧ ',' ≠ b.closing ∧ '"' ≠ b.closing ∧
      endsNumber [b.closing] = true := by
  cases b <;> exact ⟨by decide, by decide, by decide, rfl⟩

theorem skipName_append {key gap : List Char} (hkey : IsString key) (hws : IsBlanks ws)
    (hgap : IsBlanks gap) (rest : List Char) :
    skipName (ws ++ (key ++ (gap ++ ':' :: rest))) = .ok rest := by
  obtain ⟨tail, htail, hskip⟩ := hkey.exists_quote (gap ++ ':' :: rest)
  have hquote : isBlank '"' = false := by decide
  have hcolon : isBlank ':' = false := by decide
  simp only [skipName, skipBlank_append hws, htail, skipBlank_cons hquote, hskip,
    skipBlank_append hgap, skipBlank_cons hcolon, if_true]

theorem IsItem.exists_core (h : IsItem b value piece) (hvalue : StartsUnlike b.closing value) :
    ∃ before core after, IsBlanks before ∧ IsBlanks after ∧ piece = before ++ core ∧
      StartsUnlike b.closing core ∧ ∀ ws tail, IsBlanks ws → ∃ inner, IsBlanks inner ∧
        skipItemStart b (ws ++ (core ++ tail)) = .ok (inner ++ (value ++ (after ++ tail))) := by
  cases b with
  | list =>
    cases h with
    | @among before after hbefore hafter =>
      refine ⟨before, value ++ after, after, hbefore, hafter, rfl, hvalue.append after,
        fun ws tail hws => ⟨ws, hws, ?_⟩⟩
      rw [skipItemStart, List.append_assoc]
  | object =>
    cases h with
    | @among before key gap piece hbefore hkey hgap element =>
      cases element with
      | @among inner after hinner hafter =>
        refine ⟨before, _, after, hbefore, hafter, rfl, ?_, fun ws tail _ => ⟨inner, hinner, ?_⟩⟩
        · obtain ⟨pieces, -, rfl⟩ := hkey
          exact ⟨'"', _, rfl, by decide, by decide⟩
        · have hname :=
            skipName_append hkey ‹IsBlanks ws› hgap (inner ++ (value ++ (after ++ tail)))
          simpa [skipItemStart] using hname

theorem skipToItem_item (h : IsItem b value piece) (hvalue : StartsUnlike b.closing value)
    (first : Bool) (hws : IsBlanks ws) (pieces : List (List Char)) (rest : List Char) :
    ∃ inner after, IsBlanks inner ∧ IsBlanks after ∧
      skipToItem b first (ws ++ (joined first (piece :: pieces) ++ b.closing :: rest)) =
        .ok (false, inner ++ (value ++ (after ++ (joined false pieces ++ b.closing :: rest)))) := by
  obtain ⟨before, core, after, hbefore, hafter, rfl, hcore, hstart⟩ := h.exists_core hvalue
  let tail := joined false pieces ++ b.closing :: rest
  cases first with
  | true =>
    obtain ⟨inner, hinner, hitem⟩ := hstart [] tail isBlanks_nil
    obtain ⟨d, core', hd, hblank, hne⟩ := hcore.append tail
    refine ⟨inner, after, hinner, hafter, ?_⟩
    rw [List.nil_append, hd] at hitem
    have hskip : skipBlank (ws ++ (joined true ((before ++ core) :: pieces) ++ b.closing :: rest)) =
        d :: core' := by
      rw [skipBlank_append hws, joined, if_pos rfl, List.append_assoc, List.append_assoc,
        skipBlank_append hbefore, hd, skipBlank_cons hblank]
    simp only [skipToItem, hskip, hne, if_false, if_true, hitem, Except.map]
    rfl
  | false =>
    obtain ⟨inner, hinner, hitem⟩ := hstart before tail hbefore
    have hcomma : isBlank ',' = false := by decide
    refine ⟨inner, after, hinner, hafter, ?_⟩
    have hskip :
        skipBlank (ws ++ (joined false ((before ++ core) :: pieces) ++ b.closing :: rest)) =
          ',' :: (before ++ (core ++ tail)) := by
      rw [skipBlank_append hws, joined, if_neg Bool.false_ne_true, List.cons_append,
        List.cons_append, skipBlank_cons hcomma, List.append_assoc, List.append_assoc]
    simp only [skipToItem, hskip, b.closing_ne.2.1, Bool.false_eq_true, if_false, if_true, hitem,
      Except.map]
    rfl

theorem skipToItem_closing (b : Bracket) (first : Bool) (hws : IsBlanks ws) (rest : List Char) :
    skipToItem b first (ws ++ b.closing :: rest) = .ok (true, rest) := by
  simp only [skipToItem, skipBlank_append hws, skipBlank_cons b.closing_ne.1, if_true]

theorem skipFrom_items (h : List.Forall₂ (IsItem b) values pieces)
    (each : ∀ value ∈ values, StartsUnlike b.closing value ∧ PassesOver value)
    (opened : List Bracket) (hws : IsBlanks ws) (rest : List Char) :
    skipFrom (b :: opened) false (ws ++ (joined false pieces ++ b.closing :: rest)) =
      skipFrom opened false rest := by
  induction h generalizing ws with
  | nil =>
    rw [joined, List.nil_append, skipFrom_next (skipToItem_closing b false hws rest), if_pos rfl]
  | @cons value piece values pieces hpiece hothers ih =>
    obtain ⟨⟨hstart, hover⟩, hrest⟩ := List.forall_mem_cons.1 each
    obtain ⟨inner, after, hinner, hafter, hitem⟩ :=
      skipToItem_item hpiece hstart false hws pieces rest
    have hnumber := endsNumber_joined b.closing_ne.2.2.2 hafter pieces rest
    rw [skipFrom_next hitem, if_neg Bool.false_ne_true, hover _ inner _ hinner hnumber,
      ih hrest hafter]

theorem bracket?_opening (b : Bracket) :
    bracket? b.opening = some b ∧ isBlank b.opening = false := by
  cases b <;> exact ⟨rfl, by decide⟩

theorem passesOver_empty (b : Bracket) (hws : IsBlanks ws) :
    PassesOver (b.opening :: (ws ++ [b.closing])) := by
  intro opened ws' rest hws' _
  obtain ⟨hbracket, hblank⟩ := bracket?_opening b
  have hskip : skipBlank (ws' ++ (b.opening :: (ws ++ [b.closing]) ++ rest)) =
      b.opening :: (ws ++ b.closing :: rest) := by
    rw [skipBlank_append hws', List.cons_append, skipBlank_cons hblank, List.append_assoc,
      List.singleton_append]
  rw [skipFrom_open hskip hbracket (skipToItem_closing b true hws rest), if_pos rfl]

theorem passesOver_items (h : List.Forall₂ (IsItem b) values pieces)
    (each : ∀ value ∈ values, StartsUnlike b.closing value ∧ PassesOver value) :
    PassesOver (b.opening :: (List.intercalate [','] pieces ++ [b.closing])) := by
  cases h with
  | nil => exact passesOver_empty b isBlanks_nil
  | @cons value piece values pieces hpiece hothers =>
    intro opened ws rest hws _
    obtain ⟨hbracket, hblank⟩ := bracket?_opening b
    obtain ⟨⟨hstart, hover⟩, hrest⟩ := List.forall_mem_cons.1 each
    obtain ⟨inner, after, hinner, hafter, hitem⟩ :=
      skipToItem_item hpiece hstart true isBlanks_nil pieces rest
    have hnumber := endsNumber_joined b.closing_ne.2.2.2 hafter pieces rest
    have hskip : skipBlank
        (ws ++ (b.opening :: (List.intercalate [','] (piece :: pieces) ++ [b.closing]) ++ rest)) =
        b.opening :: (joined true (piece :: pieces) ++ b.closing :: rest) := by
      rw [skipBlank_append hws, List.cons_append, skipBlank_cons hblank, List.append_assoc,
        List.singleton_append, intercalate_eq_joined]
    rw [skipFrom_open hskip hbracket hitem, if_neg Bool.false_ne_true,
      hover _ inner _ hinner hnumber, skipFrom_items hothers hrest opened hafter]

end Items

section Values

variable {value cs : List Char}

theorem passesOver_scalar {c : Char} (hblank : isBlank c = false) (hbracket : bracket? c = none)
    (h : ∀ rest, endsNumber rest = true → skipScalar c (cs ++ rest) = .ok rest) :
    PassesOver (c :: cs) := by
  intro opened ws rest hws hrest
  have hskip : skipBlank (ws ++ (c :: cs ++ rest)) = c :: (cs ++ rest) := by
    rw [skipBlank_append hws, List.cons_append, skipBlank_cons hblank]
  exact skipFrom_scalar hskip hbracket (h rest hrest)

theorem IsNumeral.passesOver (h : IsNumeral cs) : PassesOver cs := by
  have hskip {rest : List Char} (hrest : endsNumber rest = true) := h.skipNumber_eq hrest
  obtain ⟨d, tail, rfl, hd⟩ := h.exists_start
  have hne {c : Char} (hminus : c ≠ '-') (hdigit : c.isDigit = false) : d ≠ c := hd.ne hminus hdigit
  refine passesOver_scalar hd.isBlank_eq ?_ fun rest hrest => ?_
  · rw [bracket?, if_neg (hne (by decide) rfl), if_neg (hne (by decide) rfl)]
  · rw [skipScalar, if_neg (hne (by decide) rfl), if_neg (hne (by decide) rfl),
      if_neg (hne (by decide) rfl), if_neg (hne (by decide) rfl)]
    exact (if_pos hd).trans (hskip hrest)

theorem IsString.passesOver (h : IsString cs) : PassesOver cs := by
  obtain ⟨pieces, hpieces, rfl⟩ := h
  refine passesOver_scalar (by decide) rfl fun rest _ => ?_
  rw [List.append_assoc]
  exact skipAfterQuote_pieces hpieces rest

theorem IsJson.startsUnlike (h : IsJson value) (b : Bracket) : StartsUnlike b.closing value := by
  have hne {c : Char} (hlist : c ≠ ']') (hobject : c ≠ '\x7d') : c ≠ b.closing := by
    cases b with
    | list => exact hlist
    | object => exact hobject
  cases h with
  | null => exact ⟨_, _, rfl, by decide, hne (by decide) (by decide)⟩
  | true => exact ⟨_, _, rfl, by decide, hne (by decide) (by decide)⟩
  | false => exact ⟨_, _, rfl, by decide, hne (by decide) (by decide)⟩
  | number number => cases b <;> exact number.startsUnlike (by decide) rfl
  | string string =>
    obtain ⟨pieces, -, rfl⟩ := string
    exact ⟨_, _, rfl, by decide, hne (by decide) (by decide)⟩
  | empty b' blanks => cases b' <;> exact ⟨_, _, rfl, by decide, hne (by decide) (by decide)⟩
  | items b' items each => cases b' <;> exact ⟨_, _, rfl, by decide, hne (by decide) (by decide)⟩

theorem IsJson.passesOver (h : IsJson value) : PassesOver value := by
  induction h with
  | null => exact passesOver_scalar (by decide) rfl fun rest _ => expect_eq_ok_iff.2 rfl
  | true => exact passesOver_scalar (by decide) rfl fun rest _ => expect_eq_ok_iff.2 rfl
  | false => exact passesOver_scalar (by decide) rfl fun rest _ => expect_eq_ok_iff.2 rfl
  | number number => exact number.passesOver
  | string string => exact string.passesOver
  | empty b blanks => exact passesOver_empty b blanks
  | items b items each ih =>
    exact passesOver_items items fun value hv => ⟨(each value hv).startsUnlike b, ih value hv⟩

/-- A value that nobody asked for is taken off the front of a text exactly. -/
theorem Reader.Reads.skipped (h : IsJson value) : Reader.skipped.Reads value () := by
  intro ws rest hws hrest
  change (skipFrom [] true (ws ++ (value ++ rest))).map _ = _
  rw [h.passesOver [] ws rest hws hrest, skipFrom_end]
  rfl

end Values

end RoutingCosts.Json
