import RoutingCosts.Json.Scalar

set_option autoImplicit false

namespace RoutingCosts.Json

inductive Bracket where
  | list
  | object
deriving DecidableEq, Repr

def Bracket.closing : Bracket → Char
  | .list => ']'
  | .object => '\x7d'

def bracket? (c : Char) : Option Bracket :=
  if c = '[' then some .list else if c = '\x7b' then some .object else none

def skipName (cs : List Char) : Except Fault (List Char) :=
  match skipBlank cs with
  | [] => .error .truncated
  | c :: rest =>
    if c = '"' then
      match skipAfterQuote rest with
      | .error f => .error f
      | .ok rest =>
        match skipBlank rest with
        | [] => .error .truncated
        | c :: rest => if c = ':' then .ok rest else .error .malformed
    else .error .malformed

def skipItemStart : Bracket → List Char → Except Fault (List Char)
  | .list, cs => .ok cs
  | .object, cs => skipName cs

def skipScalar (c : Char) (rest : List Char) : Except Fault (List Char) :=
  if c = 'n' then expect ['u', 'l', 'l'] rest
  else if c = 't' then expect ['r', 'u', 'e'] rest
  else if c = 'f' then expect ['a', 'l', 's', 'e'] rest
  else if c = '"' then skipAfterQuote rest
  else if c = '-' ∨ c.isDigit then skipNumber (c :: rest)
  else .error .malformed

theorem skipName_length {cs rest : List Char} (h : skipName cs = .ok rest) :
    rest.length ≤ cs.length := by
  unfold skipName at h
  split at h
  · cases h
  · rename_i hs
    have := length_lt_of_skipBlank hs
    split at h
    · split at h
      · cases h
      · rename_i hq
        have := skipAfterQuote_shorter hq
        split at h
        · cases h
        · rename_i hc
          have := length_lt_of_skipBlank hc
          split at h
          · cases h; omega
          · cases h
    · cases h

theorem skipItemStart_length {b : Bracket} {cs rest : List Char}
    (h : skipItemStart b cs = .ok rest) : rest.length ≤ cs.length := by
  cases b with
  | list => cases h; exact Nat.le_refl _
  | object => exact skipName_length h

theorem skipScalar_length {c : Char} {cs rest : List Char} (h : skipScalar c cs = .ok rest) :
    rest.length ≤ cs.length := by
  unfold skipScalar at h
  split at h
  · exact expect_length h
  · split at h
    · exact expect_length h
    · split at h
      · exact expect_length h
      · split at h
        · exact Nat.le_of_lt (skipAfterQuote_shorter h)
        · split at h
          · exact Nat.le_of_lt_succ (skipNumber_shorter h)
          · cases h

def skipToItem (b : Bracket) (first : Bool) (cs : List Char) : Except Fault (Bool × List Char) :=
  match skipBlank cs with
  | [] => .error .truncated
  | c :: rest =>
    if c = b.closing then .ok (true, rest)
    else if first then (skipItemStart b (c :: rest)).map fun r => (false, r)
    else if c = ',' then (skipItemStart b rest).map fun r => (false, r)
    else .error .malformed

theorem skipToItem_length {b : Bracket} {first closed : Bool} {cs rest : List Char}
    (h : skipToItem b first cs = .ok (closed, rest)) :
    rest.length ≤ cs.length ∧ (first = false → rest.length < cs.length) := by
  unfold skipToItem at h
  split at h
  · cases h
  · rename_i c tail hs
    have hb := skipBlank_length cs
    rw [hs, List.length_cons] at hb
    split at h
    · cases h; exact ⟨by omega, fun _ => by omega⟩
    · split at h
      · rename_i hf
        cases hi : skipItemStart b (c :: tail) with
        | error f => rw [hi] at h; cases h
        | ok r =>
          rw [hi] at h
          cases h
          have := skipItemStart_length hi
          rw [List.length_cons] at this
          exact ⟨by omega, fun hn => by rw [hf] at hn; cases hn⟩
      · split at h
        · cases hi : skipItemStart b tail with
          | error f => rw [hi] at h; cases h
          | ok r =>
            rw [hi] at h
            cases h
            have := skipItemStart_length hi
            exact ⟨by omega, fun _ => by omega⟩
        · cases h

/-- Passes over the rest of a value, given the brackets that are open in it and whether a value
    comes next or has just ended. -/
def skipFrom (opened : List Bracket) (valueNext : Bool) (cs : List Char) :
    Except Fault (List Char) :=
  if valueNext then
    match hs : skipBlank cs with
    | [] => .error .truncated
    | c :: rest =>
      have := length_lt_of_skipBlank hs
      match bracket? c with
      | some b =>
        match h : skipToItem b true rest with
        | .error f => .error f
        | .ok (closed, rest') =>
          have := (skipToItem_length h).1
          if closed then skipFrom opened false rest' else skipFrom (b :: opened) true rest'
      | none =>
        match h : skipScalar c rest with
        | .error f => .error f
        | .ok rest' =>
          have := skipScalar_length h
          skipFrom opened false rest'
  else
    match opened with
    | [] => .ok cs
    | b :: outer =>
      match h : skipToItem b false cs with
      | .error f => .error f
      | .ok (closed, rest') =>
        have := (skipToItem_length h).2 rfl
        if closed then skipFrom outer false rest' else skipFrom (b :: outer) true rest'
termination_by cs.length

theorem skipFrom_length {opened : List Bracket} {valueNext : Bool} {cs rest : List Char}
    (h : skipFrom opened valueNext cs = .ok rest) :
    rest.length ≤ cs.length ∧ (valueNext = true → rest.length < cs.length) := by
  fun_induction skipFrom opened valueNext cs with
  | case1 => cases h
  | case2 => cases h
  | case3 => rename_i ih; have := (ih h).1; omega
  | case4 => rename_i ih; have := (ih h).1; omega
  | case5 => cases h
  | case6 => rename_i ih; have := (ih h).1; omega
  | case7 _ _ hv => cases h; exact ⟨Nat.le_refl _, fun hn => absurd hn hv⟩
  | case8 => cases h
  | case9 => rename_i ih; have := (ih h).1; omega
  | case10 => rename_i ih; have := (ih h).1; omega

namespace Reader

def skipped : Reader Unit where
  run cs := (skipFrom [] true cs).map fun r => ((), r)
  shorter {cs _ _} h := by
    cases hs : skipFrom [] true cs with
    | error f => rw [hs] at h; cases h
    | ok r => rw [hs] at h; cases h; exact (skipFrom_length hs).2 rfl

end Reader

end RoutingCosts.Json
