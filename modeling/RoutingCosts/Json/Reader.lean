/-!
# Reading JSON text from left to right

A `Reader` takes a value off the front of a text or gives the first fault it meets. It carries a
proof that a value takes at least one character, so that whatever repeats a reader ends.
-/

set_option autoImplicit false

namespace RoutingCosts.Json

inductive Fault where
  | malformed
  /-- The text is JSON, but not of the form asked for. -/
  | mismatched
  | truncated
deriving DecidableEq, Repr

structure Reader (α : Type) where
  run : List Char → Except Fault (α × List Char)
  shorter {cs : List Char} {a : α} {rest : List Char} :
    run cs = .ok (a, rest) → rest.length < cs.length

def isBlank (c : Char) : Bool := c == ' ' || c == '\n' || c == '\t' || c == '\r'

def skipBlank (cs : List Char) : List Char := cs.dropWhile isBlank

theorem skipBlank_length (cs : List Char) : (skipBlank cs).length ≤ cs.length :=
  (List.dropWhile_suffix isBlank).length_le

theorem length_lt_of_skipBlank {cs rest : List Char} {c : Char} (h : skipBlank cs = c :: rest) :
    rest.length < cs.length := by
  have := skipBlank_length cs
  rw [h, List.length_cons] at this
  omega

def expect : List Char → List Char → Except Fault (List Char)
  | [], cs => .ok cs
  | _ :: _, [] => .error .truncated
  | w :: ws, c :: cs => if c = w then expect ws cs else .error .malformed

theorem expect_eq_ok_iff {ws cs rest : List Char} : expect ws cs = .ok rest ↔ cs = ws ++ rest := by
  induction ws generalizing cs with
  | nil => simp [expect]
  | cons w ws ih =>
    cases cs with
    | nil => simp [expect]
    | cons c cs =>
      by_cases h : c = w
      · simp [expect, h, ih]
      · simp [expect, h]

theorem expect_length {ws cs rest : List Char} (h : expect ws cs = .ok rest) :
    rest.length ≤ cs.length := by
  rw [expect_eq_ok_iff.1 h, List.length_append]
  omega

namespace Reader

def map {α β : Type} (f : α → β) (r : Reader α) : Reader β where
  run cs := (r.run cs).map fun p => (f p.1, p.2)
  shorter {cs b rest} h := by
    cases hr : r.run cs with
    | error e => rw [hr] at h; cases h
    | ok p => rw [hr] at h; cases h; exact r.shorter hr

def document {α : Type} (r : Reader α) (text : String) : Except Fault α :=
  match r.run text.toList with
  | .error f => .error f
  | .ok (a, rest) =>
    match skipBlank rest with
    | [] => .ok a
    | _ :: _ => .error .malformed

end Reader

end RoutingCosts.Json
