import RoutingCosts.Proofs.Json.Text

set_option autoImplicit false

namespace RoutingCosts.Json

def endsNumber : List Char → Bool
  | [] => true
  | c :: _ => !(c.isDigit || c == '.' || c == 'e' || c == 'E')

/-- The text begins with a character that is neither blank nor `c`. -/
def StartsUnlike (c : Char) (cs : List Char) : Prop :=
  ∃ d rest, cs = d :: rest ∧ isBlank d = false ∧ d ≠ c

theorem skipBlank_cons {c : Char} (h : isBlank c = false) (cs : List Char) :
    skipBlank (c :: cs) = c :: cs :=
  List.dropWhile_cons_of_neg (Bool.not_eq_true _ ▸ h)

theorem StartsUnlike.append {c : Char} {cs : List Char} (h : StartsUnlike c cs)
    (rest : List Char) : StartsUnlike c (cs ++ rest) := by
  obtain ⟨d, tail, rfl, hblank, hne⟩ := h
  exact ⟨d, tail ++ rest, rfl, hblank, hne⟩

section Blanks

variable {ws : List Char}

theorem isBlanks_nil : IsBlanks [] := nofun

theorem isBlank_of_mem (h : IsBlanks ws) {c : Char} (hc : c ∈ ws) : isBlank c = true := by
  have hall : ∀ c ∈ [' ', '\n', '\t', '\r'], isBlank c = true :=
    List.all_eq_true.1 rfl
  exact hall c (h c hc)

theorem skipBlank_append (h : IsBlanks ws) (cs : List Char) :
    skipBlank (ws ++ cs) = skipBlank cs :=
  List.dropWhile_append_of_pos fun _ hc => isBlank_of_mem h hc

theorem endsNumber_append (h : IsBlanks ws) {rest : List Char} (hrest : endsNumber rest = true) :
    endsNumber (ws ++ rest) = true := by
  cases ws with
  | nil => exact hrest
  | cons c ws =>
    have hall : ∀ c ∈ [' ', '\n', '\t', '\r'], ∀ cs, endsNumber (c :: cs) = true := by
      simp only [List.forall_mem_cons]
      exact ⟨fun _ => rfl, fun _ => rfl, fun _ => rfl, fun _ => rfl, nofun⟩
    exact hall c (h c List.mem_cons_self) _

theorem isElement_self (value : List Char) : IsElement value value := by
  have h := @IsElement.among value [] [] isBlanks_nil isBlanks_nil
  rwa [List.append_nil] at h

end Blanks

theorem map_expect_append {α : Type} (ws rest : List Char) (f : List Char → α) :
    (expect ws (ws ++ rest)).map f = .ok (f rest) := by
  rw [expect_eq_ok_iff.2 rfl]
  rfl

namespace Reader

/-- The reader takes exactly `cs` and the blanks before it off the front of a text, for the
    value `a`. -/
def Reads {α : Type} (r : Reader α) (cs : List Char) (a : α) : Prop :=
  ∀ ws rest, IsBlanks ws → endsNumber rest = true → r.run (ws ++ (cs ++ rest)) = .ok (a, rest)

theorem run_orNull {α : Type} (r : Reader α) {ws cs : List Char} (hstart : StartsUnlike 'n' cs)
    (hws : IsBlanks ws) (rest : List Char) :
    (Reader.orNull r).run (ws ++ (cs ++ rest)) = (r.map some).run (ws ++ (cs ++ rest)) := by
  obtain ⟨d, tail, heq, hblank, hne⟩ := hstart.append rest
  change readOrNull r (ws ++ (cs ++ rest)) = _
  unfold readOrNull
  split
  · rename_i hn
    rw [skipBlank_append hws, heq, skipBlank_cons hblank, List.cons.injEq] at hn
    exact absurd hn.1 hne
  · rfl

namespace Reads

variable {α β : Type} {r : Reader α} {cs : List Char} {a : α}

theorem of_run (hskip : ∀ ws cs, IsBlanks ws → r.run (ws ++ cs) = r.run cs)
    (h : ∀ rest, endsNumber rest = true → r.run (cs ++ rest) = .ok (a, rest)) : r.Reads cs a :=
  fun ws rest hws hrest => (hskip ws _ hws).trans (h rest hrest)

theorem map (h : r.Reads cs a) (f : α → β) : (r.map f).Reads cs (f a) := by
  intro ws rest hws hrest
  simp only [Reader.map, h ws rest hws hrest, Except.map]

theorem document {text : String} (h : r.Reads cs a) (htext : IsElement cs text.toList) :
    r.document text = .ok a := by
  generalize htoList : text.toList = chars at htext
  cases htext with
  | @among ws ws' before after =>
    have hrun := h ws (ws' ++ []) before (endsNumber_append after rfl)
    have hend : skipBlank (ws' ++ []) = [] := skipBlank_append after []
    rw [List.append_nil] at hrun hend
    simp only [Reader.document, htoList, hrun, hend]

theorem text {s : String} (h : IsText s cs) : Reader.text.Reads cs s := by
  refine of_run (fun ws cs hws => ?_) fun rest _ => ?_
  · simp only [Reader.text, readText, skipBlank_append hws]
  · obtain ⟨tail, hcs, hread⟩ := h.exists_quote rest
    have hblank : skipBlank (cs ++ rest) = '"' :: tail := by
      rw [hcs]
      rfl
    simp only [Reader.text, readText, hblank, hread, Except.map, String.ofList_toList]

theorem flag (b : Bool) : Reader.flag.Reads (writeFlag b) b := by
  refine of_run (fun ws cs hws => ?_) fun rest _ => ?_
  · simp only [Reader.flag, readFlag, skipBlank_append hws]
  · cases b with
    | false => exact map_expect_append ['a', 'l', 's', 'e'] rest _
    | true => exact map_expect_append ['r', 'u', 'e'] rest _

theorem null (r : Reader α) : (Reader.orNull r).Reads ['n', 'u', 'l', 'l'] none := by
  intro ws rest hws _
  have hblank : skipBlank (ws ++ (['n', 'u', 'l', 'l'] ++ rest)) =
      'n' :: (['u', 'l', 'l'] ++ rest) := skipBlank_append hws _
  simp only [Reader.orNull, readOrNull, hblank]
  exact map_expect_append ['u', 'l', 'l'] rest _

theorem orNull (h : r.Reads cs a) (hstart : StartsUnlike 'n' cs) :
    (Reader.orNull r).Reads cs (some a) := by
  intro ws rest hws hrest
  rw [run_orNull r hstart hws rest]
  exact h.map some ws rest hws hrest

end Reads

/-- The reader meets a fault in `cs`, after any blanks and whatever follows. -/
def Refuses {α : Type} (r : Reader α) (cs : List Char) (f : Fault) : Prop :=
  ∀ ws rest, IsBlanks ws → endsNumber rest = true → r.run (ws ++ (cs ++ rest)) = .error f

namespace Refuses

variable {α β : Type} {r : Reader α} {cs : List Char} {f : Fault}

theorem map (h : r.Refuses cs f) (g : α → β) : (r.map g).Refuses cs f := by
  intro ws rest hws hrest
  simp only [Reader.map, h ws rest hws hrest, Except.map]

theorem document {text : String} (h : r.Refuses cs f) (htext : IsElement cs text.toList) :
    r.document text = .error f := by
  generalize htoList : text.toList = chars at htext
  cases htext with
  | @among ws ws' before after =>
    have hrun := h ws (ws' ++ []) before (endsNumber_append after rfl)
    rw [List.append_nil] at hrun
    simp only [Reader.document, htoList, hrun]

theorem orNull (h : r.Refuses cs f) (hstart : StartsUnlike 'n' cs) :
    (Reader.orNull r).Refuses cs f := by
  intro ws rest hws hrest
  rw [run_orNull r hstart hws rest]
  exact h.map some ws rest hws hrest

end Refuses

end Reader

end RoutingCosts.Json
