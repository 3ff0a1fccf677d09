import RoutingCosts.Json.Number
import RoutingCosts.Json.Text

set_option autoImplicit false

namespace RoutingCosts.Json

/-- The fault of a text that should begin with a value of another kind than it does. -/
def foundInstead (cs : List Char) : Fault :=
  let found {α : Type} : Except Fault α → Fault
    | .error f => f
    | .ok _ => .mismatched
  match cs with
  | [] => .truncated
  | c :: rest =>
    if c = 'n' then found (expect ['u', 'l', 'l'] rest)
    else if c = 't' then found (expect ['r', 'u', 'e'] rest)
    else if c = 'f' then found (expect ['a', 'l', 's', 'e'] rest)
    else if c = '-' ∨ c.isDigit then found (signedNumber cs)
    else if c = '"' then found (textAfterQuote rest)
    else if c = '[' ∨ c = '{' then .mismatched
    else .malformed

def readFlag (cs : List Char) : Except Fault (Bool × List Char) :=
  match skipBlank cs with
  | 't' :: rest => (expect ['r', 'u', 'e'] rest).map fun r => (true, r)
  | 'f' :: rest => (expect ['a', 'l', 's', 'e'] rest).map fun r => (false, r)
  | cs => .error (foundInstead cs)

def readText (cs : List Char) : Except Fault (String × List Char) :=
  match skipBlank cs with
  | '"' :: rest => (textAfterQuote rest).map fun p => (.ofList p.1, p.2)
  | cs => .error (foundInstead cs)

def readNumber (cs : List Char) : Except Fault (Float × List Char) :=
  match skipBlank cs with
  | [] => .error .truncated
  | c :: rest =>
    if c = '-' ∨ c.isDigit then signedNumber (c :: rest) else .error (foundInstead (c :: rest))

def readOrNull {α : Type} (r : Reader α) (cs : List Char) : Except Fault (Option α × List Char) :=
  match skipBlank cs with
  | 'n' :: rest => (expect ['u', 'l', 'l'] rest).map fun r => (none, r)
  | _ => (r.run cs).map fun p => (some p.1, p.2)

theorem map_expect_shorter {α : Type} {a b : α} {c : Char} {ws cs tail rest : List Char}
    (hs : skipBlank cs = c :: tail) (h : (expect ws tail).map (fun r => (a, r)) = .ok (b, rest)) :
    rest.length < cs.length := by
  cases he : expect ws tail with
  | error f => rw [he] at h; cases h
  | ok r =>
    rw [he] at h
    cases h
    have := expect_length he
    have := length_lt_of_skipBlank hs
    omega

theorem readNumber_shorter {cs rest : List Char} {x : Float} (h : readNumber cs = .ok (x, rest)) :
    rest.length < cs.length := by
  unfold readNumber at h
  split at h
  · cases h
  · rename_i hs
    split at h
    · have := signedNumber_shorter h
      have := skipBlank_length cs
      rw [hs] at this
      omega
    · cases h

namespace Reader

def flag : Reader Bool where
  run := readFlag
  shorter h := by
    unfold readFlag at h
    split at h
    · rename_i hs; exact map_expect_shorter hs h
    · rename_i hs; exact map_expect_shorter hs h
    · cases h

def text : Reader String where
  run := readText
  shorter h := by
    unfold readText at h
    split at h
    · rename_i tail hs
      have := length_lt_of_skipBlank hs
      cases ht : textAfterQuote tail with
      | error f => rw [ht] at h; cases h
      | ok p =>
        rw [ht] at h
        cases h
        have := textAfterQuote_shorter ht
        omega
    · cases h

def number : Reader Float where
  run := readNumber
  shorter := readNumber_shorter

def orNull {α : Type} (r : Reader α) : Reader (Option α) where
  run := readOrNull r
  shorter {cs _ _} h := by
    unfold readOrNull at h
    split at h
    · rename_i hs; exact map_expect_shorter hs h
    · exact (r.map some).shorter h

end Reader

end RoutingCosts.Json
