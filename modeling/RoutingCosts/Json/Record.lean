import RoutingCosts.Json.Skip

set_option autoImplicit false

namespace RoutingCosts.Json

/-- A field of a record that is drafted in `δ`. -/
structure Field (δ : Type) where
  name : String
  isSet : δ → Bool
  fill : δ → Reader δ

def Field.of {δ α : Type} (name : String) (get : δ → Option α) (set : δ → α → δ) (r : Reader α) :
    Field δ where
  name := name
  isSet draft := (get draft).isSome
  fill draft := r.map (set draft)

structure Record (δ α : Type) where
  fields : List (Field δ)
  blank : δ
  finish : δ → Option α

/-- Whether a list or object ends next; after its end or at its next item. All items but the
    first stand after a comma. -/
def toItem (closing : Char) (first : Bool) (cs : List Char) : Except Fault (Bool × List Char) :=
  match skipBlank cs with
  | [] => .error .truncated
  | c :: rest =>
    if c = closing then .ok (true, rest)
    else if first then .ok (false, c :: rest)
    else if c = ',' then
      match skipBlank rest with
      | [] => .error .truncated
      | d :: rest => if d = closing then .error .malformed else .ok (false, d :: rest)
    else .error .malformed

def takeEnd (closing : Char) (cs : List Char) : Except Fault (List Char) :=
  match skipBlank cs with
  | [] => .error .truncated
  | c :: rest => if c = closing then .ok rest else .error .malformed

theorem toItem_length {closing : Char} {first closed : Bool} {cs rest : List Char}
    (h : toItem closing first cs = .ok (closed, rest)) :
    rest.length ≤ cs.length ∧ (closed = true → rest.length < cs.length) := by
  unfold toItem at h
  split at h
  · cases h
  · rename_i c tail hs
    have hb := skipBlank_length cs
    rw [hs, List.length_cons] at hb
    split at h
    · cases h; omega
    · split at h
      · cases h; exact ⟨hb, Bool.noConfusion⟩
      · split at h
        · split at h
          · cases h
          · rename_i d next hd
            have hn := skipBlank_length tail
            rw [hd] at hn
            split at h
            · cases h
            · cases h; exact ⟨by omega, Bool.noConfusion⟩
        · cases h

theorem takeEnd_shorter {closing : Char} {cs rest : List Char}
    (h : takeEnd closing cs = .ok rest) : rest.length < cs.length := by
  unfold takeEnd at h
  split at h
  · cases h
  · rename_i hs
    split at h
    · cases h; exact length_lt_of_skipBlank hs
    · cases h

def readName (cs : List Char) : Except Fault (List Char × List Char) :=
  match cs with
  | '"' :: rest => textAfterQuote rest
  | _ => .error .malformed

def takeColon (cs : List Char) : Except Fault (List Char) :=
  match skipBlank cs with
  | [] => .error .truncated
  | c :: rest => if c = ':' then .ok rest else .error .malformed

theorem readName_shorter {cs name rest : List Char} (h : readName cs = .ok (name, rest)) :
    rest.length < cs.length := by
  unfold readName at h
  split at h
  · exact Nat.lt_succ_of_lt (textAfterQuote_shorter h)
  · cases h

theorem takeColon_shorter {cs rest : List Char} (h : takeColon cs = .ok rest) :
    rest.length < cs.length := by
  unfold takeColon at h
  split at h
  · cases h
  · rename_i hs
    split at h
    · cases h; exact length_lt_of_skipBlank hs
    · cases h

variable {δ α : Type}

/-- Reads the value of the member with the given name, at its colon. A field may be given once;
    a member that is no field is passed over. -/
def readMember (fields : List (Field δ)) (draft : δ) (name cs : List Char) :
    Except Fault (δ × List Char) :=
  match fields.find? fun f => f.name.toList == name with
  | some f =>
    if f.isSet draft then .error .mismatched
    else
      match takeColon cs with
      | .error e => .error e
      | .ok rest => (f.fill draft).run rest
  | none =>
    match takeColon cs with
    | .error e => .error e
    | .ok rest => (Reader.skipped.run rest).map fun p => (draft, p.2)

theorem readMember_shorter {fields : List (Field δ)} {draft done : δ} {name cs rest : List Char}
    (h : readMember fields draft name cs = .ok (done, rest)) : rest.length < cs.length := by
  unfold readMember at h
  split at h
  · rename_i f _
    split at h
    · cases h
    · split at h
      · cases h
      · rename_i hc
        have := takeColon_shorter hc
        have := (f.fill draft).shorter h
        omega
  · split at h
    · cases h
    · rename_i hc
      have := takeColon_shorter hc
      have := (Reader.skipped.map fun _ => draft).shorter h
      omega

def readMembers (fields : List (Field δ)) (draft : δ) (first : Bool) (cs : List Char) :
    Except Fault (δ × List Char) :=
  match hi : toItem '\x7d' first cs with
  | .error e => .error e
  | .ok (true, rest) => .ok (draft, rest)
  | .ok (false, item) =>
    match hn : readName item with
    | .error e => .error e
    | .ok (name, rest) =>
      match hm : readMember fields draft name rest with
      | .error e => .error e
      | .ok (draft, rest') =>
        have := (toItem_length hi).1
        have := readName_shorter hn
        have := readMember_shorter hm
        readMembers fields draft false rest'
termination_by cs.length

theorem readMembers_shorter {fields : List (Field δ)} {draft done : δ} {first : Bool}
    {cs rest : List Char} (h : readMembers fields draft first cs = .ok (done, rest)) :
    rest.length < cs.length := by
  fun_induction readMembers fields draft first cs with
  | case1 => cases h
  | case2 _ _ _ _ hi => cases h; exact (toItem_length hi).2 rfl
  | case3 => cases h
  | case4 => cases h
  | case5 => rename_i ih; have := ih h; omega

/-- Reads the fields of a record from a list, in order; the last ones may be left out. -/
def readItems : List (Field δ) → δ → Bool → List Char → Except Fault (δ × List Char)
  | [], draft, _, cs => (takeEnd ']' cs).map fun r => (draft, r)
  | f :: fields, draft, first, cs =>
    match toItem ']' first cs with
    | .error e => .error e
    | .ok (true, rest) => .ok (draft, rest)
    | .ok (false, item) =>
      match (f.fill draft).run item with
      | .error e => .error e
      | .ok (draft, rest) => readItems fields draft false rest

theorem readItems_shorter {fields : List (Field δ)} {draft done : δ} {first : Bool}
    {cs rest : List Char} (h : readItems fields draft first cs = .ok (done, rest)) :
    rest.length < cs.length := by
  induction fields generalizing draft first cs with
  | nil =>
    simp only [readItems] at h
    cases he : takeEnd ']' cs with
    | error f => rw [he] at h; cases h
    | ok r => rw [he] at h; cases h; exact takeEnd_shorter he
  | cons f fields ih =>
    simp only [readItems] at h
    split at h
    · cases h
    · rename_i hi; cases h; exact (toItem_length hi).2 rfl
    · rename_i item hi
      have := (toItem_length hi).1
      split at h
      · cases h
      · rename_i draft rest hr
        have := (f.fill _).shorter hr
        have := ih h
        omega

def finishRecord (r : Record δ α) (drafted : Except Fault (δ × List Char)) :
    Except Fault (α × List Char) :=
  match drafted with
  | .error f => .error f
  | .ok (draft, rest) =>
    match r.finish draft with
    | some a => .ok (a, rest)
    | none => .error .mismatched

theorem exists_of_finishRecord {r : Record δ α} {drafted : Except Fault (δ × List Char)} {a : α}
    {rest : List Char} (h : finishRecord r drafted = .ok (a, rest)) :
    ∃ draft, drafted = .ok (draft, rest) ∧ r.finish draft = some a := by
  unfold finishRecord at h
  split at h
  · cases h
  · split at h
    · rename_i hf; cases h; exact ⟨_, rfl, hf⟩
    · cases h

def readRecord (r : Record δ α) (cs : List Char) : Except Fault (α × List Char) :=
  match skipBlank cs with
  | [] => .error .truncated
  | c :: rest =>
    if c = '\x7b' then finishRecord r (readMembers r.fields r.blank true rest)
    else if c = '[' then finishRecord r (readItems r.fields r.blank true rest)
    else .error (foundInstead (c :: rest))

theorem readRecord_shorter {r : Record δ α} {a : α} {cs rest : List Char}
    (h : readRecord r cs = .ok (a, rest)) : rest.length < cs.length := by
  unfold readRecord at h
  split at h
  · cases h
  · rename_i hs
    have := length_lt_of_skipBlank hs
    split at h
    · obtain ⟨_, hm, _⟩ := exists_of_finishRecord h
      have := readMembers_shorter hm
      omega
    · split at h
      · obtain ⟨_, hm, _⟩ := exists_of_finishRecord h
        have := readItems_shorter hm
        omega
      · cases h

def readElements (r : Reader α) (done : List α) (first : Bool) (cs : List Char) :
    Except Fault (List α × List Char) :=
  match hi : toItem ']' first cs with
  | .error e => .error e
  | .ok (true, rest) => .ok (done.reverse, rest)
  | .ok (false, item) =>
    match hr : r.run item with
    | .error e => .error e
    | .ok (a, rest) =>
      have := (toItem_length hi).1
      have := r.shorter hr
      readElements r (a :: done) false rest
termination_by cs.length

theorem readElements_shorter {r : Reader α} {done as : List α} {first : Bool}
    {cs rest : List Char} (h : readElements r done first cs = .ok (as, rest)) :
    rest.length < cs.length := by
  fun_induction readElements r done first cs with
  | case1 => cases h
  | case2 _ _ _ _ hi => cases h; exact (toItem_length hi).2 rfl
  | case3 => cases h
  | case4 => rename_i ih; have := ih h; omega

def readList (r : Reader α) (cs : List Char) : Except Fault (List α × List Char) :=
  match skipBlank cs with
  | [] => .error .truncated
  | c :: rest =>
    if c = '[' then readElements r [] true rest else .error (foundInstead (c :: rest))

theorem readList_shorter {r : Reader α} {as : List α} {cs rest : List Char}
    (h : readList r cs = .ok (as, rest)) : rest.length < cs.length := by
  unfold readList at h
  split at h
  · cases h
  · rename_i hs
    have := length_lt_of_skipBlank hs
    split at h
    · have := readElements_shorter h; omega
    · cases h

namespace Reader

def record (r : Record δ α) : Reader α where
  run := readRecord r
  shorter := readRecord_shorter

def list (r : Reader α) : Reader (List α) where
  run := readList r
  shorter := readList_shorter

end Reader

end RoutingCosts.Json
