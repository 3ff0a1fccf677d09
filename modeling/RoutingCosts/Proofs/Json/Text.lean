import Mathlib.Data.String.Basic
import RoutingCosts.Json.Scalar
import RoutingCosts.Json.Writer
import RoutingCosts.Proofs.Json.Grammar

set_option autoImplicit false

namespace RoutingCosts.Json

section Escapes

theorem length_le_utf8ByteSize (cs : List Char) : cs.length ≤ (String.ofList cs).utf8ByteSize := by
  rw [String.utf8ByteSize_ofList]
  induction cs with
  | nil => exact Nat.le_refl 0
  | cons c cs ih =>
    have hc := c.utf8Size_pos
    rw [String.utf8Len_cons, List.length_cons]
    omega

theorem hexDigit?_digitChar :
    ∀ n < 16, hexDigit? n.digitChar = some n ∧ hexDigit? n.digitChar.toUpper = some n := by
  decide

theorem HexDigit.eq {n : ℕ} {c : Char} (h : HexDigit n c) : hexDigit? c = some n := by
  cases h with
  | lower small => exact (hexDigit?_digitChar n small).1
  | upper small => exact (hexDigit?_digitChar n small).2

theorem HexWord.run {n : ℕ} {ds : List Char} (h : HexWord n ds) (rest : List Char) :
    hexWord (ds ++ rest) = .ok (n, rest) := by
  cases h with
  | @digits a b c d x y z w first second third fourth =>
    have hlong : ¬ (String.ofList [x, y, z, w]).utf8ByteSize < 4 :=
      not_lt.2 (length_le_utf8ByteSize [x, y, z, w])
    simp only [hexWord, List.cons_append, List.nil_append, List.take_succ_cons, List.take_zero,
      hlong, if_false, first.eq, second.eq, third.eq, fourth.eq]

theorem not_isLeading_toNat (c : Char) :
    isLeading c.toNat = false ∧ isTrailing c.toNat = false := by
  have hvalid : c.toNat < 0xD800 ∨ 0xDFFF < c.toNat ∧ c.toNat < 0x110000 := c.valid
  simp only [isLeading, isTrailing, Bool.and_eq_false_iff, decide_eq_false_iff_not]
  omega

theorem numericEscape_word {c : Char} {ds : List Char} (h : HexWord c.toNat ds)
    (rest : List Char) : numericEscape (ds ++ rest) = .ok (c, rest) := by
  obtain ⟨hleading, htrailing⟩ := not_isLeading_toNat c
  simp only [numericEscape, h.run, htrailing, hleading, Bool.false_eq_true, if_false,
    Char.ofNat_toNat]

theorem numericEscape_pair {c : Char} {high low : ℕ} {ds es : List Char} (highSmall : high < 0x400)
    (lowSmall : low < 0x400) (value : c.toNat = 0x10000 + high * 0x400 + low)
    (leading : HexWord (0xD800 + high) ds) (trailing : HexWord (0xDC00 + low) es)
    (rest : List Char) :
    numericEscape (ds ++ '\\' :: 'u' :: (es ++ rest)) = .ok (c, rest) := by
  have hfirst : isTrailing (0xD800 + high) = false ∧ isLeading (0xD800 + high) = true := by
    simp only [isTrailing, isLeading, Bool.and_eq_false_iff, Bool.and_eq_true,
      decide_eq_false_iff_not, decide_eq_true_iff]
    omega
  have hsecond : isTrailing (0xDC00 + low) = true := by
    simp only [isTrailing, Bool.and_eq_true, decide_eq_true_iff]
    omega
  have hmark : expect ['\\', 'u'] ('\\' :: 'u' :: (es ++ rest)) = .ok (es ++ rest) :=
    expect_eq_ok_iff.2 rfl
  have hc : ofSurrogates (0xD800 + high) (0xDC00 + low) = c := by
    rw [ofSurrogates, Nat.add_sub_cancel_left, Nat.add_sub_cancel_left, ← value, Char.ofNat_toNat]
  simp only [numericEscape, leading.run, trailing.run, hfirst, hsecond, hmark, hc,
    Bool.false_eq_true, if_false, if_true]

theorem letterEscape?_of_mem {l c : Char} (h : (l, c) ∈ escapeLetters) :
    l ≠ 'u' ∧ letterEscape? l = some c := by
  have hall : ∀ p ∈ escapeLetters, p.1 ≠ 'u' ∧ letterEscape? p.1 = some p.2 := by decide
  exact hall (l, c) h

end Escapes

section Body

variable {α : Type} {plain : Char → α} {escaped : Reader α}

theorem textBody_plain {c : Char} (quote : c ≠ '"') (backslash : c ≠ '\\')
    (printable : 0x20 ≤ c.toNat) (done : List α) (rest : List Char) :
    textBody plain escaped done (c :: rest) = textBody plain escaped (plain c :: done) rest := by
  rw [textBody, if_neg quote, if_neg backslash, if_neg (not_lt.2 printable)]

theorem textBody_escaped {a : α} {cs rest : List Char} (h : escaped.run cs = .ok (a, rest))
    (done : List α) :
    textBody plain escaped done ('\\' :: cs) = textBody plain escaped (a :: done) rest := by
  rw [textBody, if_neg (by decide), if_pos rfl]
  split
  · rename_i hrun
    rw [h] at hrun
    cases hrun
  · rename_i hrun
    rw [h] at hrun
    cases hrun
    rfl

def Stands (plain : Char → α) (escaped : Reader α) (a : α) (piece : List Char) : Prop :=
  ∀ done rest, textBody plain escaped done (piece ++ rest) = textBody plain escaped (a :: done) rest

theorem textBody_flatten {items : List α} {pieces : List (List Char)}
    (h : List.Forall₂ (Stands plain escaped) items pieces) (done : List α) (rest : List Char) :
    textBody plain escaped done (pieces.flatten ++ '"' :: rest) =
      .ok (done.reverse ++ items, rest) := by
  induction h generalizing done with
  | nil => rw [List.flatten_nil, List.nil_append, List.append_nil, textBody, if_pos rfl]
  | cons hpiece _ ih =>
    rw [List.flatten_cons, List.append_assoc, hpiece, ih, List.reverse_cons, List.append_assoc,
      List.singleton_append]

end Body

theorem Spells.stands {c : Char} {piece : List Char} (h : Spells c piece) :
    Stands id escape c piece := by
  intro done rest
  cases h with
  | plain quote backslash printable => exact textBody_plain quote backslash printable done rest
  | @letter l letter =>
    obtain ⟨hl, hc⟩ := letterEscape?_of_mem letter
    have hrun : escape.run (l :: rest) = .ok (c, rest) := by
      simp only [escape, escapeRun, hl, if_false, hc, id]
    exact textBody_escaped hrun done
  | number word =>
    have hrun := numericEscape_word word rest
    exact textBody_escaped hrun done
  | @pair high low ds es highSmall lowSmall value leading trailing =>
    have hrun := numericEscape_pair highSmall lowSmall value leading trailing rest
    rw [List.cons_append, List.cons_append, List.append_assoc]
    exact textBody_escaped hrun done

theorem IsPiece.stands {piece : List Char} (h : IsPiece piece) :
    Stands (fun _ => ()) looseEscape () piece := by
  intro done rest
  cases h with
  | plain quote backslash printable => exact textBody_plain quote backslash printable done rest
  | @letter l c letter =>
    obtain ⟨hl, hc⟩ := letterEscape?_of_mem letter
    have hrun : looseEscape.run (l :: rest) = .ok ((), rest) := by
      simp only [looseEscape, escapeRun, hl, if_false, hc]
    exact textBody_escaped hrun done
  | @number n ds word =>
    have hrun : looseEscape.run ('u' :: (ds ++ rest)) = .ok ((), rest) := by
      change (hexWord (ds ++ rest)).map _ = _
      rw [word.run]
      rfl
    exact textBody_escaped hrun done

theorem textAfterQuote_pieces {s : List Char} {pieces : List (List Char)}
    (h : List.Forall₂ Spells s pieces) (rest : List Char) :
    textAfterQuote (pieces.flatten ++ '"' :: rest) = .ok (s, rest) :=
  textBody_flatten (h.imp fun _ _ => Spells.stands) [] rest

theorem skipAfterQuote_pieces {pieces : List (List Char)} (h : ∀ piece ∈ pieces, IsPiece piece)
    (rest : List Char) : skipAfterQuote (pieces.flatten ++ '"' :: rest) = .ok rest := by
  have hpieces : List.Forall₂ (Stands (fun _ => ()) looseEscape) (pieces.map fun _ => ()) pieces :=
    List.forall₂_map_left_iff.2 (List.forall₂_same.2 fun piece hp => (h piece hp).stands)
  rw [skipAfterQuote, textBody_flatten hpieces]
  rfl

theorem IsText.exists_quote {s : String} {cs : List Char} (h : IsText s cs) (rest : List Char) :
    ∃ tail, cs ++ rest = '"' :: tail ∧ textAfterQuote tail = .ok (s.toList, rest) := by
  obtain ⟨pieces, hpieces, rfl⟩ := h
  refine ⟨_, ?_, textAfterQuote_pieces hpieces rest⟩
  simp

theorem IsString.exists_quote {cs : List Char} (h : IsString cs) (rest : List Char) :
    ∃ tail, cs ++ rest = '"' :: tail ∧ skipAfterQuote tail = .ok rest := by
  obtain ⟨pieces, hpieces, rfl⟩ := h
  refine ⟨_, ?_, skipAfterQuote_pieces hpieces rest⟩
  simp

section Written

theorem hexDigit_eq_digitChar : ∀ n < 16, hexDigit n = n.digitChar := by decide

theorem hexDigit_hexDigit {n : ℕ} (h : n < 16) : HexDigit n (hexDigit n) :=
  hexDigit_eq_digitChar n h ▸ .lower h

theorem spells_control {c : Char} (h : c.toNat < 0x20) :
    Spells c ['\\', 'u', '0', '0', hexDigit (c.toNat / 16), hexDigit (c.toNat % 16)] := by
  have hvalue : ((0 * 16 + 0) * 16 + c.toNat / 16) * 16 + c.toNat % 16 = c.toNat := by omega
  have hzero : HexDigit 0 '0' := hexDigit_hexDigit (by decide)
  have hhigh : HexDigit (c.toNat / 16) (hexDigit (c.toNat / 16)) := hexDigit_hexDigit (by omega)
  have hlow : HexDigit (c.toNat % 16) (hexDigit (c.toNat % 16)) := hexDigit_hexDigit (by omega)
  have hword := HexWord.digits hzero hzero hhigh hlow
  rw [hvalue] at hword
  exact .number hword

theorem spells_writtenChar (c : Char) : Spells c (writtenChar c) := by
  unfold writtenChar
  split_ifs with h₁ h₂ h₃ h₄ h₅ h₆ h₇ h₈
  · rw [h₁]; exact .letter (by decide)
  · rw [h₂]; exact .letter (by decide)
  · rw [h₃]; exact .letter (by decide)
  · rw [h₄]; exact .letter (by decide)
  · rw [h₅]; exact .letter (by decide)
  · rw [h₆]; exact .letter (by decide)
  · rw [h₇]; exact .letter (by decide)
  · exact spells_control h₈
  · exact .plain h₁ h₂ (not_lt.1 h₈)

theorem isText_writeText (s : String) : IsText s (writeText s) := by
  refine ⟨s.toList.map writtenChar, ?_, by rw [writeText, List.flatMap_def]⟩
  exact List.forall₂_map_right_iff.2 (List.forall₂_same.2 fun c _ => spells_writtenChar c)

end Written

end RoutingCosts.Json
