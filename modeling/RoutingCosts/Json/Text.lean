import RoutingCosts.Json.Reader

set_option autoImplicit false

namespace RoutingCosts.Json

def hexDigit? (c : Char) : Option Nat :=
  if '0' ≤ c ∧ c ≤ '9' then some (c.toNat - '0'.toNat)
  else if 'a' ≤ c ∧ c ≤ 'f' then some (c.toNat - 'a'.toNat + 10)
  else if 'A' ≤ c ∧ c ≤ 'F' then some (c.toNat - 'A'.toNat + 10)
  else none

/-- Four hexadecimal digits. The text is too short if it has fewer than four bytes left. -/
def hexWord (cs : List Char) : Except Fault (Nat × List Char) :=
  if (String.ofList (cs.take 4)).utf8ByteSize < 4 then .error .truncated
  else match cs with
  | a :: b :: c :: d :: rest =>
    match hexDigit? a, hexDigit? b, hexDigit? c, hexDigit? d with
    | some a, some b, some c, some d => .ok (((a * 16 + b) * 16 + c) * 16 + d, rest)
    | _, _, _, _ => .error .malformed
  | _ => .error .malformed

theorem hexWord_shorter {cs rest : List Char} {n : Nat} (h : hexWord cs = .ok (n, rest)) :
    rest.length < cs.length := by
  unfold hexWord at h
  split at h
  · cases h
  · split at h
    · split at h
      · cases h; simp only [List.length_cons]; omega
      · cases h
    · cases h

def isLeading (n : Nat) : Bool := decide (0xD800 ≤ n) && decide (n ≤ 0xDBFF)

def isTrailing (n : Nat) : Bool := decide (0xDC00 ≤ n) && decide (n ≤ 0xDFFF)

def ofSurrogates (leading trailing : Nat) : Char :=
  .ofNat (0x10000 + (leading - 0xD800) * 0x400 + (trailing - 0xDC00))

def numericEscape (cs : List Char) : Except Fault (Char × List Char) :=
  match hexWord cs with
  | .error f => .error f
  | .ok (n, rest) =>
    if isTrailing n then .error .malformed
    else if isLeading n then
      match expect ['\\', 'u'] rest with
      | .error f => .error f
      | .ok rest =>
        match hexWord rest with
        | .error f => .error f
        | .ok (k, rest) => if isTrailing k then .ok (ofSurrogates n k, rest) else .error .malformed
    else .ok (.ofNat n, rest)

theorem numericEscape_shorter {cs rest : List Char} {c : Char}
    (h : numericEscape cs = .ok (c, rest)) : rest.length < cs.length := by
  unfold numericEscape at h
  split at h
  · cases h
  · rename_i n first hn
    have h₁ := hexWord_shorter hn
    split at h
    · cases h
    · split at h
      · split at h
        · cases h
        · rename_i second he
          have h₂ := expect_length he
          split at h
          · cases h
          · rename_i k third hk
            have h₃ := hexWord_shorter hk
            split at h
            · simp only [Except.ok.injEq, Prod.mk.injEq] at h
              obtain ⟨_, rfl⟩ := h
              omega
            · cases h
      · simp only [Except.ok.injEq, Prod.mk.injEq] at h
        obtain ⟨_, rfl⟩ := h
        exact h₁

def letterEscape? : Char → Option Char
  | '"' => some '"'
  | '\\' => some '\\'
  | '/' => some '/'
  | 'b' => some '\x08'
  | 'f' => some '\x0c'
  | 'n' => some '\n'
  | 'r' => some '\r'
  | 't' => some '\t'
  | _ => none

def escapeRun {α : Type} (letter : Char → α) (numeric : List Char → Except Fault (α × List Char)) :
    List Char → Except Fault (α × List Char)
  | [] => .error .truncated
  | c :: rest =>
    if c = 'u' then numeric rest
    else match letterEscape? c with
      | some d => .ok (letter d, rest)
      | none => .error .malformed

theorem escapeRun_shorter {α : Type} {letter : Char → α}
    {numeric : List Char → Except Fault (α × List Char)}
    (hn : ∀ {cs a rest}, numeric cs = .ok (a, rest) → rest.length < cs.length)
    {cs rest : List Char} {a : α} (h : escapeRun letter numeric cs = .ok (a, rest)) :
    rest.length < cs.length := by
  cases cs with
  | nil => cases h
  | cons c cs =>
    simp only [escapeRun] at h
    split at h
    · have := hn h; simp only [List.length_cons]; omega
    · split at h
      · cases h; simp
      · cases h

def escape : Reader Char where
  run := escapeRun id numericEscape
  shorter := escapeRun_shorter numericEscape_shorter

def looseEscape : Reader Unit where
  run := escapeRun (fun _ => ()) fun cs => (hexWord cs).map fun p => ((), p.2)
  shorter := escapeRun_shorter fun {cs a rest} h => by
    cases hw : hexWord cs with
    | error f => rw [hw] at h; cases h
    | ok p => rw [hw] at h; cases h; exact hexWord_shorter hw

/-- Reads up to the closing quote and puts what was read behind `done`, which is in reverse. -/
def textBody {α : Type} (plain : Char → α) (escaped : Reader α) (done : List α) (cs : List Char) :
    Except Fault (List α × List Char) :=
  match cs with
  | [] => .error .truncated
  | c :: rest =>
    if c = '"' then .ok (done.reverse, rest)
    else if c = '\\' then
      match h : escaped.run rest with
      | .error f => .error f
      | .ok (a, rest') =>
        have := escaped.shorter h
        textBody plain escaped (a :: done) rest'
    else if c.toNat < 0x20 then .error .malformed
    else textBody plain escaped (plain c :: done) rest
termination_by cs.length
decreasing_by all_goals simp only [List.length_cons]; omega

theorem textBody_shorter {α : Type} {plain : Char → α} {escaped : Reader α} {done s : List α}
    {cs rest : List Char} (h : textBody plain escaped done cs = .ok (s, rest)) :
    rest.length < cs.length := by
  fun_induction textBody plain escaped done cs with
  | case1 => cases h
  | case2 => cases h; simp
  | case3 => cases h
  | case4 done tail a next hrun shorter _ ih =>
    have := ih h
    simp only [List.length_cons]
    omega
  | case5 => cases h
  | case6 done c rest' _ _ _ ih =>
    have := ih h
    simp only [List.length_cons]
    omega

def textAfterQuote (cs : List Char) : Except Fault (List Char × List Char) :=
  textBody id escape [] cs

def skipAfterQuote (cs : List Char) : Except Fault (List Char) :=
  (textBody (fun _ => ()) looseEscape [] cs).map Prod.snd

theorem textAfterQuote_shorter {cs s rest : List Char} (h : textAfterQuote cs = .ok (s, rest)) :
    rest.length < cs.length :=
  textBody_shorter h

theorem skipAfterQuote_shorter {cs rest : List Char} (h : skipAfterQuote cs = .ok rest) :
    rest.length < cs.length := by
  unfold skipAfterQuote at h
  cases hb : textBody (fun _ => ()) looseEscape [] cs with
  | error f => rw [hb] at h; cases h
  | ok p => rw [hb] at h; cases h; exact textBody_shorter hb

end RoutingCosts.Json
