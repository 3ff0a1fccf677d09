import RoutingCosts.Json.Record
import RoutingCosts.Proofs.Json.Reading

set_option autoImplicit false

namespace RoutingCosts.Json

section Items

variable {closing : Char} {ws : List Char}

def joined (first : Bool) : List (List Char) → List Char
  | [] => []
  | x :: xs => (if first then x else ',' :: x) ++ joined false xs

theorem intercalate_eq_joined (xs : List (List Char)) :
    List.intercalate [','] xs = joined true xs := by
  induction xs with
  | nil => rfl
  | cons x xs ih =>
    cases xs with
    | nil => simp [joined]
    | cons y ys =>
      rw [List.intercalate_cons_cons, ih]
      simp [joined]

theorem endsNumber_joined (h : endsNumber [closing] = true) (hws : IsBlanks ws)
    (xs : List (List Char)) (rest : List Char) :
    endsNumber (ws ++ (joined false xs ++ closing :: rest)) = true := by
  refine endsNumber_append hws ?_
  cases xs with
  | nil => exact h
  | cons x xs => rfl

theorem toItem_append (hws : IsBlanks ws) (first : Bool) (cs : List Char) :
    toItem closing first (ws ++ cs) = toItem closing first cs := by
  simp only [toItem, skipBlank_append hws]

theorem toItem_closing (h : isBlank closing = false) (first : Bool) (rest : List Char) :
    toItem closing first (closing :: rest) = .ok (true, rest) := by
  simp only [toItem, skipBlank_cons h, if_true]

theorem toItem_joined {x : List Char} (hcomma : ',' ≠ closing) (hws : IsBlanks ws)
    (hx : StartsUnlike closing x) (first : Bool) (rest : List Char) :
    toItem closing first ((if first then ws ++ x else ',' :: (ws ++ x)) ++ rest) =
      .ok (false, x ++ rest) := by
  obtain ⟨d, tail, heq, hblank, hne⟩ := hx.append rest
  cases first with
  | true =>
    simp only [if_true, List.append_assoc, heq, toItem, skipBlank_append hws,
      skipBlank_cons hblank, hne, if_false]
  | false =>
    have hblank' : isBlank ',' = false := by decide
    simp only [Bool.false_eq_true, if_false, List.cons_append, List.append_assoc, toItem,
      skipBlank_cons hblank', skipBlank_append hws, heq, skipBlank_cons hblank, hcomma, hne,
      if_true]

end Items

section Members

variable {δ α : Type} {fields : List (Field δ)}

theorem Reader.Reads.fill {r : Reader α} {cs : List Char} {a : α} (h : r.Reads cs a) (name : String)
    (get : δ → Option α) (set : δ → α → δ) (draft : δ) :
    ((Field.of name get set r).fill draft).Reads cs (set draft a) :=
  h.map (set draft)

theorem Reader.Refuses.fill {r : Reader α} {cs : List Char} {f : Fault} (h : r.Refuses cs f)
    (name : String) (get : δ → Option α) (set : δ → α → δ) (draft : δ) :
    ((Field.of name get set r).fill draft).Refuses cs f :=
  h.map (set draft)

/-- The members fill the draft one after another, each a field that is not set yet or one that is
    passed over. -/
inductive Fills (fields : List (Field δ)) : δ → List (String × List Char) → δ → Prop
  | nil (draft : δ) : Fills fields draft [] draft
  | cons {f : Field δ} {draft next done : δ} {name : String} {value : List Char}
      {members : List (String × List Char)}
      (field : fields.find? (fun f => f.name.toList == name.toList) = some f)
      (unset : f.isSet draft = false) (fill : (f.fill draft).Reads value next)
      (others : Fills fields next members done) : Fills fields draft ((name, value) :: members) done
  | skip {draft done : δ} {name : String} {value : List Char} {members : List (String × List Char)}
      (unknown : fields.find? (fun f => f.name.toList == name.toList) = none)
      (skipped : Reader.skipped.Reads value ()) (others : Fills fields draft members done) :
      Fills fields draft ((name, value) :: members) done

theorem IsText.startsUnlike {s : String} {cs : List Char} (h : IsText s cs) {c : Char}
    (hc : '"' ≠ c) : StartsUnlike c cs := by
  obtain ⟨pieces, -, rfl⟩ := h
  exact ⟨'"', _, rfl, by decide, hc⟩

theorem readName_append {s : String} {cs : List Char} (h : IsText s cs) (rest : List Char) :
    readName (cs ++ rest) = .ok (s.toList, rest) := by
  obtain ⟨tail, hcs, hread⟩ := h.exists_quote rest
  rw [hcs]
  exact hread

theorem takeColon_append {gap : List Char} (h : IsBlanks gap) (rest : List Char) :
    takeColon (gap ++ ':' :: rest) = .ok rest := by
  have hcolon : isBlank ':' = false := by decide
  simp only [takeColon, skipBlank_append h, skipBlank_cons hcolon, if_true]

section Loop

variable {draft next : δ} {first : Bool} {cs item rest rest' name : List Char}

theorem readMembers_next (hi : toItem '\x7d' first cs = .ok (false, item))
    (hn : readName item = .ok (name, rest))
    (hm : readMember fields draft name rest = .ok (next, rest')) :
    readMembers fields draft first cs = readMembers fields next false rest' := by
  rw [readMembers]
  split
  · rename_i h; rw [hi] at h; cases h
  · rename_i h; rw [hi] at h; cases h
  · rename_i h
    rw [hi] at h
    cases h
    split
    · rename_i h; rw [hn] at h; cases h
    · rename_i h
      rw [hn] at h
      cases h
      split
      · rename_i h; rw [hm] at h; cases h
      · rename_i h; rw [hm] at h; cases h; rfl

theorem readMembers_error {f : Fault} (hi : toItem '\x7d' first cs = .ok (false, item))
    (hn : readName item = .ok (name, rest)) (hm : readMember fields draft name rest = .error f) :
    readMembers fields draft first cs = .error f := by
  rw [readMembers]
  split
  · rename_i h; rw [hi] at h; cases h
  · rename_i h; rw [hi] at h; cases h
  · rename_i h
    rw [hi] at h
    cases h
    split
    · rename_i h; rw [hn] at h; cases h
    · rename_i h
      rw [hn] at h
      cases h
      split
      · rename_i h; rw [hm] at h; cases h; rfl
      · rename_i h; rw [hm] at h; cases h

theorem readMembers_end (hi : toItem '\x7d' first cs = .ok (true, rest)) :
    readMembers fields draft first cs = .ok (draft, rest) := by
  rw [readMembers]
  split
  · rename_i h; rw [hi] at h; cases h
  · rename_i h; rw [hi] at h; cases h; rfl
  · rename_i h; rw [hi] at h; cases h

end Loop

/-- After its name, the rest of a member leads from `draft` to `next`. -/
def LeadsTo (fields : List (Field δ)) (draft : δ) (name : String) (value : List Char) (next : δ) :
    Prop :=
  ∀ gap inner tail, IsBlanks gap → IsBlanks inner → endsNumber tail = true →
    readMember fields draft name.toList (gap ++ ':' :: (inner ++ (value ++ tail))) =
      .ok (next, tail)

theorem leadsTo_of_field {f : Field δ} {draft next : δ} {name : String} {value : List Char}
    (field : fields.find? (fun f => f.name.toList == name.toList) = some f)
    (unset : f.isSet draft = false) (fill : (f.fill draft).Reads value next) :
    LeadsTo fields draft name value next := by
  intro gap inner tail hgap hinner htail
  simp only [readMember, field, unset, Bool.false_eq_true, if_false, takeColon_append hgap,
    fill inner tail hinner htail]

theorem leadsTo_of_unknown (draft : δ) {name : String} {value : List Char}
    (unknown : fields.find? (fun f => f.name.toList == name.toList) = none)
    (skipped : Reader.skipped.Reads value ()) : LeadsTo fields draft name value draft := by
  intro gap inner tail hgap hinner htail
  simp only [readMember, unknown, takeColon_append hgap, skipped inner tail hinner htail,
    Except.map]

theorem exists_memberStart {name : String} {value piece : List Char}
    (h : IsMember (IsText name) value piece) (first : Bool) {ws : List Char} (hws : IsBlanks ws)
    (pieces : List (List Char)) (rest : List Char) :
    ∃ item gap inner after, IsBlanks gap ∧ IsBlanks inner ∧ IsBlanks after ∧
      endsNumber (after ++ (joined false pieces ++ '\x7d' :: rest)) = true ∧
      toItem '\x7d' first (ws ++ (joined first (piece :: pieces) ++ '\x7d' :: rest)) =
        .ok (false, item) ∧
      readName item = .ok (name.toList,
        gap ++ ':' :: (inner ++ (value ++ (after ++ (joined false pieces ++ '\x7d' :: rest))))) := by
  cases h with
  | @among before key gap piece hbefore hname hgap element =>
    cases element with
    | @among inner after hinner hafter =>
      have hnumber := @endsNumber_joined '\x7d' _ (by decide) hafter pieces rest
      have hkey : StartsUnlike '\x7d' key := hname.startsUnlike (by decide)
      have hitem := toItem_joined (by decide) hbefore
        (hkey.append (gap ++ ':' :: (inner ++ (value ++ after)))) first
        (joined false pieces ++ '\x7d' :: rest)
      rw [← toItem_append hws, List.append_assoc key] at hitem
      rw [joined, List.append_assoc (if first = true then _ else _)]
      refine ⟨_, gap, inner, after, hgap, hinner, hafter, hnumber, hitem, ?_⟩
      rw [readName_append hname]
      simp only [List.append_assoc, List.cons_append]

theorem readMembers_member {draft next : δ} {name : String} {value piece : List Char}
    (h : IsMember (IsText name) value piece) (first : Bool) {ws : List Char} (hws : IsBlanks ws)
    (pieces : List (List Char)) (rest : List Char) (hread : LeadsTo fields draft name value next) :
    ∃ after, IsBlanks after ∧
      readMembers fields draft first (ws ++ (joined first (piece :: pieces) ++ '\x7d' :: rest)) =
        readMembers fields next false (after ++ (joined false pieces ++ '\x7d' :: rest)) := by
  obtain ⟨item, gap, inner, after, hgap, hinner, hafter, hnumber, hitem, hname⟩ :=
    exists_memberStart h first hws pieces rest
  exact ⟨after, hafter, readMembers_next hitem hname (hread gap inner _ hgap hinner hnumber)⟩

theorem readMembers_refused {f : Field δ} {draft : δ} {name : String} {value piece : List Char}
    {fault : Fault} (h : IsMember (IsText name) value piece) (first : Bool) {ws : List Char}
    (hws : IsBlanks ws) (pieces : List (List Char)) (rest : List Char)
    (field : fields.find? (fun f => f.name.toList == name.toList) = some f)
    (unset : f.isSet draft = false) (refused : (f.fill draft).Refuses value fault) :
    readMembers fields draft first (ws ++ (joined first (piece :: pieces) ++ '\x7d' :: rest)) =
      .error fault := by
  obtain ⟨item, gap, inner, after, hgap, hinner, hafter, hnumber, hitem, hname⟩ :=
    exists_memberStart h first hws pieces rest
  refine readMembers_error hitem hname ?_
  simp only [readMember, field, unset, Bool.false_eq_true, if_false, takeColon_append hgap,
    refused inner _ hinner hnumber]

/-- Members fill the draft, whatever members follow. -/
theorem Fills.readMembers_append {draft done : δ} {members : List (String × List Char)}
    {pieces : List (List Char)} (h : Fills fields draft members done)
    (hpieces : List.Forall₂ (fun m => IsMember (IsText m.1) m.2) members pieces)
    (more : List (List Char)) (first : Bool) {ws : List Char} (hws : IsBlanks ws)
    (rest : List Char) :
    ∃ first' after, IsBlanks after ∧
      readMembers fields draft first (ws ++ (joined first (pieces ++ more) ++ '\x7d' :: rest)) =
        readMembers fields done first' (after ++ (joined first' more ++ '\x7d' :: rest)) := by
  induction h generalizing pieces first ws with
  | nil draft =>
    cases hpieces
    exact ⟨first, ws, hws, rfl⟩
  | @cons f draft next done name value members field unset fill others ih =>
    cases hpieces with
    | @cons _ piece _ pieces hpiece hothers =>
      obtain ⟨after, hafter, hnext⟩ := readMembers_member hpiece first hws (pieces ++ more) rest
        (leadsTo_of_field field unset fill)
      rw [List.cons_append, hnext]
      exact ih hothers false hafter
  | @skip draft done name value members unknown skipped others ih =>
    cases hpieces with
    | @cons _ piece _ pieces hpiece hothers =>
      obtain ⟨after, hafter, hnext⟩ := readMembers_member hpiece first hws (pieces ++ more) rest
        (leadsTo_of_unknown draft unknown skipped)
      rw [List.cons_append, hnext]
      exact ih hothers false hafter

theorem Fills.readMembers_eq {draft done : δ} {members : List (String × List Char)}
    {pieces : List (List Char)} (h : Fills fields draft members done)
    (hpieces : List.Forall₂ (fun m => IsMember (IsText m.1) m.2) members pieces) (first : Bool)
    {ws : List Char} (hws : IsBlanks ws) (rest : List Char) :
    readMembers fields draft first (ws ++ (joined first pieces ++ '\x7d' :: rest)) =
      .ok (done, rest) := by
  obtain ⟨first', after, hafter, hread⟩ := h.readMembers_append hpieces [] first hws rest
  have hend := @toItem_closing '\x7d' (by decide) first' rest
  rw [← toItem_append hafter] at hend
  rw [List.append_nil] at hread
  exact hread.trans (readMembers_end hend)

theorem Fills.reads_object {r : Record δ α} {members : List (String × List Char)} {draft : δ}
    {a : α} {cs : List Char} (h : Fills r.fields r.blank members draft) (hfinish : r.finish draft = some a)
    (hobject : IsObject members cs) : (Reader.record r).Reads cs a := by
  obtain ⟨pieces, hpieces, rfl⟩ := hobject
  refine .of_run (fun ws cs hws => ?_) fun rest _ => ?_
  · simp only [Reader.record, readRecord, skipBlank_append hws]
  · have hmembers := h.readMembers_eq hpieces true isBlanks_nil rest
    have hopen : isBlank '\x7b' = false := by decide
    rw [List.nil_append] at hmembers
    simp only [Reader.record, readRecord, intercalate_eq_joined, List.cons_append,
      List.append_assoc, List.nil_append, skipBlank_cons hopen, if_true, hmembers, finishRecord,
      hfinish]

theorem Fills.refuses_object {r : Record δ α} {members others : List (String × List Char)}
    {draft : δ} {f : Field δ} {name : String} {value cs : List Char} {fault : Fault}
    (h : Fills r.fields r.blank members draft)
    (field : r.fields.find? (fun f => f.name.toList == name.toList) = some f)
    (unset : f.isSet draft = false) (refused : (f.fill draft).Refuses value fault)
    (hobject : IsObject (members ++ (name, value) :: others) cs) :
    (Reader.record r).Refuses cs fault := by
  obtain ⟨pieces, hpieces, rfl⟩ := hobject
  have hbefore := List.forall₂_take members.length hpieces
  have hafter := List.forall₂_drop members.length hpieces
  rw [List.take_left] at hbefore
  rw [List.drop_left] at hafter
  obtain ⟨piece, later, hpiece, -, hlater⟩ := List.forall₂_cons_left_iff.1 hafter
  intro ws rest hws _
  obtain ⟨first, blanks, hblanks, hmembers⟩ :=
    h.readMembers_append hbefore (piece :: later) true isBlanks_nil rest
  rw [readMembers_refused hpiece first hblanks later rest field unset refused, ← hlater,
    List.take_append_drop, List.nil_append] at hmembers
  have hopen : isBlank '\x7b' = false := by decide
  simp only [Reader.record, readRecord, skipBlank_append hws, intercalate_eq_joined,
    List.cons_append, List.append_assoc, List.nil_append, skipBlank_cons hopen, if_true, hmembers,
    finishRecord]

theorem isMember_writeMember (m : String × List Char) :
    IsMember (IsText m.1) m.2 (writeMember m) :=
  .among isBlanks_nil (isText_writeText m.1) isBlanks_nil (isElement_self m.2)

theorem isObject_writeObject (members : List (String × List Char)) :
    IsObject members (writeObject members) :=
  ⟨members.map writeMember,
    List.forall₂_map_right_iff.2 (List.forall₂_same.2 fun m _ => isMember_writeMember m), rfl⟩

theorem isObjectText_of_eq {members : List (String × List Char)} {text : String}
    (h : text.toList = writeObject members) : IsObjectText members text := by
  refine ⟨_, isObject_writeObject members, ?_⟩
  rw [h]
  exact isElement_self _

theorem Fills.reads_record {r : Record δ α} {members : List (String × List Char)} {draft : δ}
    {a : α} (h : Fills r.fields r.blank members draft) (hfinish : r.finish draft = some a) :
    (Reader.record r).Reads (writeObject members) a :=
  h.reads_object hfinish (isObject_writeObject members)

theorem startsUnlike_writeObject (members : List (String × List Char)) :
    StartsUnlike ']' (writeObject members) :=
  ⟨'\x7b', _, rfl, by decide, by decide⟩

end Members

section Elements

variable {α : Type} {r : Reader α}

theorem toItem_element {value piece ws : List Char} (h : IsElement value piece)
    (hvalue : StartsUnlike ']' value) (hws : IsBlanks ws) (first : Bool)
    (pieces : List (List Char)) (rest : List Char) :
    ∃ after, IsBlanks after ∧ endsNumber (after ++ (joined false pieces ++ ']' :: rest)) = true ∧
      toItem ']' first (ws ++ (joined first (piece :: pieces) ++ ']' :: rest)) =
        .ok (false, value ++ (after ++ (joined false pieces ++ ']' :: rest))) := by
  cases h with
  | @among before after hbefore hafter =>
    have hitem := toItem_joined (by decide) hbefore (hvalue.append after) first
      (joined false pieces ++ ']' :: rest)
    refine ⟨after, hafter, endsNumber_joined (by decide) hafter pieces rest, ?_⟩
    rw [toItem_append hws, joined, List.append_assoc, hitem, List.append_assoc]

theorem readElements_next {done : List α} {first : Bool} {cs item rest : List Char} {a : α}
    (hi : toItem ']' first cs = .ok (false, item)) (hr : r.run item = .ok (a, rest)) :
    readElements r done first cs = readElements r (a :: done) false rest := by
  rw [readElements]
  split
  · rename_i h; rw [hi] at h; cases h
  · rename_i h; rw [hi] at h; cases h
  · rename_i h
    rw [hi] at h
    cases h
    split
    · rename_i h; rw [hr] at h; cases h
    · rename_i h; rw [hr] at h; cases h; rfl

theorem readElements_end {done : List α} {first : Bool} {cs rest : List Char}
    (hi : toItem ']' first cs = .ok (true, rest)) :
    readElements r done first cs = .ok (done.reverse, rest) := by
  rw [readElements]
  split
  · rename_i h; rw [hi] at h; cases h
  · rename_i h; rw [hi] at h; cases h; rfl
  · rename_i h; rw [hi] at h; cases h

theorem readElements_joined {xs pieces : List (List Char)} {as : List α}
    (h : List.Forall₂ (fun x a => StartsUnlike ']' x ∧ r.Reads x a) xs as)
    (hpieces : List.Forall₂ IsElement xs pieces) (done : List α) (first : Bool) {ws : List Char}
    (hws : IsBlanks ws) (rest : List Char) :
    readElements r done first (ws ++ (joined first pieces ++ ']' :: rest)) =
      .ok (done.reverse ++ as, rest) := by
  induction h generalizing pieces done first ws with
  | nil =>
    cases hpieces
    have hi := @toItem_closing ']' (by decide) first rest
    rw [← toItem_append hws] at hi
    rw [List.append_nil]
    exact readElements_end hi
  | @cons x a xs as hx hxs ih =>
    cases hpieces with
    | @cons _ piece _ pieces hpiece hothers =>
      obtain ⟨after, hafter, hnumber, hitem⟩ := toItem_element hpiece hx.1 hws first pieces rest
      have hread := hx.2 [] _ isBlanks_nil hnumber
      rw [readElements_next hitem hread, ih hothers _ false hafter, List.reverse_cons,
        List.append_assoc, List.singleton_append]

def listText (texts : List String) : String := "[" ++ ",".intercalate texts ++ "]"

theorem isList_listText (texts : List String) :
    IsList (texts.map String.toList) (listText texts).toList := by
  refine ⟨texts.map String.toList, List.forall₂_same.2 fun x _ => isElement_self x, ?_⟩
  rw [listText, String.toList_append, String.toList_append, String.toList_intercalate]
  rfl

theorem reads_list {xs : List (List Char)} {as : List α} {cs : List Char}
    (h : List.Forall₂ (fun x a => StartsUnlike ']' x ∧ r.Reads x a) xs as) (hlist : IsList xs cs) :
    (Reader.list r).Reads cs as := by
  obtain ⟨pieces, hpieces, rfl⟩ := hlist
  refine .of_run (fun ws cs hws => ?_) fun rest _ => ?_
  · simp only [Reader.list, readList, skipBlank_append hws]
  · have helements := readElements_joined h hpieces [] true isBlanks_nil rest
    have hopen : isBlank '[' = false := by decide
    rw [List.nil_append] at helements
    simp only [Reader.list, readList, intercalate_eq_joined, List.cons_append, List.append_assoc,
      List.nil_append, skipBlank_cons hopen, if_true, helements, List.reverse_nil]

end Elements

section Listed

variable {δ α : Type} {fields : List (Field δ)}

inductive FillsInOrder : List (Field δ) → δ → List (List Char) → δ → Prop
  | nil (fields : List (Field δ)) (draft : δ) : FillsInOrder fields draft [] draft
  | cons {f : Field δ} {fields : List (Field δ)} {draft next done : δ} {value : List Char}
      {values : List (List Char)} (start : StartsUnlike ']' value)
      (fill : (f.fill draft).Reads value next) (others : FillsInOrder fields next values done) :
      FillsInOrder (f :: fields) draft (value :: values) done

theorem FillsInOrder.readItems_eq {draft done : δ} {values pieces : List (List Char)}
    (h : FillsInOrder fields draft values done) (hpieces : List.Forall₂ IsElement values pieces)
    (first : Bool) {ws : List Char} (hws : IsBlanks ws) (rest : List Char) :
    readItems fields draft first (ws ++ (joined first pieces ++ ']' :: rest)) =
      .ok (done, rest) := by
  induction h generalizing pieces first ws with
  | nil fields draft =>
    cases hpieces
    have hclosing : isBlank ']' = false := by decide
    cases fields with
    | nil =>
      simp only [readItems, joined, List.nil_append, takeEnd, skipBlank_append hws,
        skipBlank_cons hclosing, if_true]
      rfl
    | cons f fields =>
      have hi := toItem_closing hclosing first rest
      rw [← toItem_append hws] at hi
      simp only [readItems, joined, List.nil_append, hi]
  | cons start fill others ih =>
    cases hpieces with
    | @cons _ piece _ pieces hpiece hothers =>
      obtain ⟨after, hafter, hnumber, hitem⟩ := toItem_element hpiece start hws first pieces rest
      have hread := fill [] _ isBlanks_nil hnumber
      rw [List.nil_append] at hread
      simp only [readItems, hitem, hread, ih hothers false hafter]

theorem FillsInOrder.reads_list {r : Record δ α} {values : List (List Char)} {draft : δ} {a : α}
    {cs : List Char} (h : FillsInOrder r.fields r.blank values draft)
    (hfinish : r.finish draft = some a) (hlist : IsList values cs) :
    (Reader.record r).Reads cs a := by
  obtain ⟨pieces, hpieces, rfl⟩ := hlist
  refine .of_run (fun ws cs hws => ?_) fun rest _ => ?_
  · simp only [Reader.record, readRecord, skipBlank_append hws]
  · have hitems := h.readItems_eq hpieces true isBlanks_nil rest
    have hopen : isBlank '[' = false := by decide
    have hne : ('[' : Char) ≠ '\x7b' := by decide
    rw [List.nil_append] at hitems
    simp only [Reader.record, readRecord, intercalate_eq_joined, List.cons_append,
      List.append_assoc, List.nil_append, skipBlank_cons hopen, hne, if_false, if_true, hitems,
      finishRecord, hfinish]

end Listed

end RoutingCosts.Json
