import RoutingCosts.Proofs.Configuration
import RoutingCosts.Proofs.Json.Skipping

/-!
# What a profile is read from

A profile is read from the members of an object that are its fields, in any order, and from nothing
else: other members are passed over whatever their values are, and a field with a default may be
left out or have its default spelled out. A list of its values in the order of the fields stands for
the same profile.
-/

set_option autoImplicit false

open RoutingCosts.Json

namespace RoutingCosts

namespace Profile

inductive FieldName where
  | name
  | vehicle
  | weighting
  | turnCosts
  | uTurnCosts
deriving DecidableEq

def FieldName.text : FieldName → String
  | .name => "name"
  | .vehicle => "vehicle"
  | .weighting => "weighting"
  | .turnCosts => "turn_costs"
  | .uTurnCosts => "u_turn_costs"

inductive Entry where
  | name (value : String)
  | vehicle (value : String)
  | weighting (value : String)
  | turnCosts (value : Bool)
  | uTurnCosts (value : Option Float)
deriving DecidableEq

namespace Entry

def field : Entry → FieldName
  | .name _ => .name
  | .vehicle _ => .vehicle
  | .weighting _ => .weighting
  | .turnCosts _ => .turnCosts
  | .uTurnCosts _ => .uTurnCosts

inductive IsValue : Entry → List Char → Prop
  | name {s : String} {cs : List Char} (text : IsText s cs) : IsValue (.name s) cs
  | vehicle {s : String} {cs : List Char} (text : IsText s cs) : IsValue (.vehicle s) cs
  | weighting {s : String} {cs : List Char} (text : IsText s cs) : IsValue (.weighting s) cs
  | withTurnCosts : IsValue (.turnCosts true) ['t', 'r', 'u', 'e']
  | withoutTurnCosts : IsValue (.turnCosts false) ['f', 'a', 'l', 's', 'e']
  | uTurnCosts {x : Float} {cs : List Char} (number : IsNumber x cs) :
      IsValue (.uTurnCosts (some x)) cs
  | noUTurnCosts : IsValue (.uTurnCosts none) ['n', 'u', 'l', 'l']

/-- What holds of a profile that says nothing of the field. -/
def IsDefault (e : Entry) : Prop := e = .turnCosts false ∨ e = .uTurnCosts none

end Entry

def entries (p : Profile) : List Entry :=
  [.name p.name, .vehicle p.vehicle, .weighting p.weighting, .turnCosts p.turnCosts,
    .uTurnCosts p.uTurnCosts]

/-- What the members of an object tell, one after another. Members of other names tell nothing,
    whatever their values are. -/
inductive Tells : List (String × List Char) → List Entry → Prop
  | nil : Tells [] []
  | field {e : Entry} {cs : List Char} {ms : List (String × List Char)} {es : List Entry}
      (value : e.IsValue cs) (others : Tells ms es) : Tells ((e.field.text, cs) :: ms) (e :: es)
  | other {name : String} {cs : List Char} {ms : List (String × List Char)} {es : List Entry}
      (unknown : ∀ f : FieldName, f.text ≠ name) (json : IsJson cs) (others : Tells ms es) :
      Tells ((name, cs) :: ms) es

/-- No field is told twice, and each is told as it is in the profile or left to its default. -/
structure IsTold (p : Profile) (es : List Entry) : Prop where
  once : (es.map Entry.field).Nodup
  each : ∀ e ∈ p.entries, e ∈ es ∨ e.IsDefault ∧ e.field ∉ es.map Entry.field

def IsDescribedBy (p : Profile) (ms : List (String × List Char)) : Prop :=
  ∃ es, Tells ms es ∧ p.IsTold es

/-- Members in another order, with others that tell nothing or with a default spelled out, and the
    way back. -/
inductive Reworded : List (String × List Char) → List (String × List Char) → Prop
  | reordered {ms ms' : List (String × List Char)} (perm : ms.Perm ms') : Reworded ms ms'
  | other (ms : List (String × List Char)) {name : String} {cs : List Char}
      (unknown : ∀ f : FieldName, f.text ≠ name) (json : IsJson cs) : Reworded ms ((name, cs) :: ms)
  | spelledOut {ms : List (String × List Char)} {e : Entry} {cs : List Char}
      (isDefault : e.IsDefault) (value : e.IsValue cs) (absent : ∀ m ∈ ms, m.1 ≠ e.field.text) :
      Reworded ms ((e.field.text, cs) :: ms)
  | symm {ms ms' : List (String × List Char)} (reworded : Reworded ms ms') : Reworded ms' ms
  | trans {ms ms' ms'' : List (String × List Char)} (first : Reworded ms ms')
      (second : Reworded ms' ms'') : Reworded ms ms''

/-- The values of a list describe the profile: all of them in order, or without the last one or two
    where those are defaults. -/
inductive IsListedBy (p : Profile) (values : List (List Char)) : Prop
  | complete (values : List.Forall₂ Entry.IsValue p.entries values)
  | withoutUTurnCosts (uTurnCosts : p.uTurnCosts = none)
      (values : List.Forall₂ Entry.IsValue (p.entries.take 4) values)
  | withoutTurnCosts (turnCosts : p.turnCosts = false) (uTurnCosts : p.uTurnCosts = none)
      (values : List.Forall₂ Entry.IsValue (p.entries.take 3) values)

section Draft

namespace Draft

def put (d : Draft) : Entry → Draft
  | .name s => { d with name := some s }
  | .vehicle s => { d with vehicle := some s }
  | .weighting s => { d with weighting := some s }
  | .turnCosts b => { d with turnCosts := some b }
  | .uTurnCosts x => { d with uTurnCosts := some x }

def told? (d : Draft) : FieldName → Option Entry
  | .name => d.name.map .name
  | .vehicle => d.vehicle.map .vehicle
  | .weighting => d.weighting.map .weighting
  | .turnCosts => d.turnCosts.map .turnCosts
  | .uTurnCosts => d.uTurnCosts.map .uTurnCosts

theorem told?_put (d : Draft) (e : Entry) (f : FieldName) :
    (d.put e).told? f = if e.field = f then some e else d.told? f := by
  cases e <;> cases f <;> rfl

theorem told?_blank (f : FieldName) : record.blank.told? f = none := by cases f <;> rfl

theorem told?_foldl_of_notMem {es : List Entry} {f : FieldName} (h : f ∉ es.map Entry.field)
    (d : Draft) : (es.foldl put d).told? f = d.told? f := by
  induction es generalizing d with
  | nil => rfl
  | cons e es ih =>
    obtain ⟨hne, hrest⟩ := not_or.1 (List.mem_cons.not.1 h)
    rw [List.foldl_cons, ih hrest, told?_put, if_neg (Ne.symm hne)]

theorem told?_foldl_of_mem {es : List Entry} {e : Entry} (once : (es.map Entry.field).Nodup)
    (he : e ∈ es) (d : Draft) : (es.foldl put d).told? e.field = some e := by
  induction es generalizing d with
  | nil => cases he
  | cons e' es ih =>
    obtain ⟨hnew, hrest⟩ := List.nodup_cons.1 once
    rw [List.foldl_cons]
    rcases List.mem_cons.1 he with rfl | he
    · rw [told?_foldl_of_notMem hnew, told?_put, if_pos rfl]
    · exact ih hrest he (d.put e')

end Draft

variable {p : Profile} {es : List Entry} {e : Entry}

theorem IsTold.finish_eq (h : p.IsTold es) :
    record.finish (es.foldl Draft.put record.blank) = some p := by
  have hentry : ∀ e ∈ p.entries, (es.foldl Draft.put record.blank).told? e.field = some e ∨
      e.IsDefault ∧ (es.foldl Draft.put record.blank).told? e.field = none := fun e he =>
    (h.each e he).imp (Draft.told?_foldl_of_mem h.once · _) fun ⟨hdefault, habsent⟩ =>
      ⟨hdefault, (Draft.told?_foldl_of_notMem habsent _).trans (Draft.told?_blank _)⟩
  generalize es.foldl Draft.put record.blank = d at hentry
  simp only [entries, List.forall_mem_cons, Entry.field, Draft.told?, Entry.IsDefault,
    Option.map_eq_some_iff, Option.map_eq_none_iff, Entry.name.injEq, Entry.vehicle.injEq,
    Entry.weighting.injEq, Entry.turnCosts.injEq, Entry.uTurnCosts.injEq, exists_eq_right,
    reduceCtorEq, false_or, or_false, false_and] at hentry
  obtain ⟨hname, hvehicle, hweighting, hturnCosts, huTurnCosts, -⟩ := hentry
  have hturnCosts' : d.turnCosts.getD false = p.turnCosts := by
    rcases hturnCosts with hsome | ⟨hdefault, hnone⟩
    · rw [hsome, Option.getD_some]
    · rw [hnone, Option.getD_none, hdefault]
  have huTurnCosts' : d.uTurnCosts.getD none = p.uTurnCosts := by
    rcases huTurnCosts with hsome | ⟨hdefault, hnone⟩
    · rw [hsome, Option.getD_some]
    · rw [hnone, Option.getD_none, hdefault]
  simp [record, hname, hvehicle, hweighting, hturnCosts', huTurnCosts']

end Draft

section Reading

variable {p : Profile} {ms ms' : List (String × List Char)} {es es' : List Entry} {e : Entry}
  {cs : List Char} {values : List (List Char)}

def FieldName.reader : FieldName → Json.Field Draft
  | .name => record.fields[0]
  | .vehicle => record.fields[1]
  | .weighting => record.fields[2]
  | .turnCosts => record.fields[3]
  | .uTurnCosts => record.fields[4]

theorem find?_text (f : FieldName) :
    record.fields.find? (fun g => g.name.toList == f.text.toList) = some f.reader := by
  cases f <;> rfl

theorem find?_unknown {name : String} (unknown : ∀ f : FieldName, f.text ≠ name) :
    record.fields.find? (fun g => g.name.toList == name.toList) = none := by
  have hfields : record.fields =
      [FieldName.name, .vehicle, .weighting, .turnCosts, .uTurnCosts].map FieldName.reader := rfl
  rw [hfields, List.find?_eq_none]
  intro g hg
  obtain ⟨f, -, rfl⟩ := List.mem_map.1 hg
  have hname : f.reader.name = f.text := by cases f <;> rfl
  rw [hname, beq_iff_eq]
  exact fun h => unknown f (String.toList_injective h)

theorem isSet_reader (f : FieldName) (d : Draft) : f.reader.isSet d = (d.told? f).isSome := by
  cases f <;> exact Option.isSome_map.symm

theorem Entry.IsValue.reads (h : e.IsValue cs) (d : Draft) :
    (e.field.reader.fill d).Reads cs (d.put e) := by
  cases h with
  | name text => exact (Reader.Reads.text text).fill _ _ _ d
  | vehicle text => exact (Reader.Reads.text text).fill _ _ _ d
  | weighting text => exact (Reader.Reads.text text).fill _ _ _ d
  | withTurnCosts => exact (Reader.Reads.flag true).fill _ _ _ d
  | withoutTurnCosts => exact (Reader.Reads.flag false).fill _ _ _ d
  | uTurnCosts number => exact number.reads_orNull.fill _ _ _ d
  | noUTurnCosts => exact (Reader.Reads.null .number).fill _ _ _ d

theorem Entry.IsValue.startsUnlike (h : e.IsValue cs) : StartsUnlike ']' cs := by
  cases h with
  | name text => exact text.startsUnlike (by decide)
  | vehicle text => exact text.startsUnlike (by decide)
  | weighting text => exact text.startsUnlike (by decide)
  | withTurnCosts => exact ⟨_, _, rfl, by decide, by decide⟩
  | withoutTurnCosts => exact ⟨_, _, rfl, by decide, by decide⟩
  | uTurnCosts number => exact number.isNumeral.startsUnlike (by decide) rfl
  | noUTurnCosts => exact ⟨_, _, rfl, by decide, by decide⟩

theorem Tells.fills (h : Tells ms es) (once : (es.map Entry.field).Nodup) (d : Draft)
    (unset : ∀ e ∈ es, d.told? e.field = none) :
    Fills record.fields d ms (es.foldl Draft.put d) := by
  induction h generalizing d with
  | nil => exact .nil d
  | @field e cs ms es value others ih =>
    obtain ⟨hnew, hrest⟩ := List.nodup_cons.1 once
    obtain ⟨hunset, hothers⟩ := List.forall_mem_cons.1 unset
    refine .cons (find?_text e.field) ?_ (value.reads d) (ih hrest (d.put e) fun e' he' => ?_)
    · rw [isSet_reader, hunset]
      rfl
    · have hne : e.field ≠ e'.field := fun heq => hnew (heq ▸ List.mem_map_of_mem he')
      rw [Draft.told?_put, if_neg hne, hothers e' he']
  | other unknown json others ih =>
    exact .skip (find?_unknown unknown) (.skipped json) (ih once d unset)

theorem IsDescribedBy.reads (h : p.IsDescribedBy ms) (hobject : IsObject ms cs) :
    reader.Reads cs p := by
  obtain ⟨es, htells, htold⟩ := h
  have hfills := htells.fills htold.once record.blank fun e _ => Draft.told?_blank e.field
  exact hfills.reads_object htold.finish_eq hobject

theorem Tells.refuses (h : Tells ms es) (once : (es.map Entry.field).Nodup)
    (untold : .uTurnCosts ∉ es.map Entry.field) {number : List Char} (numeral : IsNumeral number)
    (range : ∀ x, ¬ IsNumber x number)
    (hobject : IsObject (ms ++ (FieldName.uTurnCosts.text, number) :: ms') cs) :
    reader.Refuses cs .malformed := by
  have hfills := h.fills once record.blank fun e _ => Draft.told?_blank e.field
  refine hfills.refuses_object (find?_text .uTurnCosts) ?_ ?_ hobject
  · rw [isSet_reader, Draft.told?_foldl_of_notMem untold, Draft.told?_blank]
    rfl
  · exact (numeral.refuses_orNull range).fill _ _ _ _

theorem fillsInOrder (h : List.Forall₂ Entry.IsValue es values)
    (fields : List (Json.Field Draft)) (d : Draft) :
    FillsInOrder (es.map (·.field.reader) ++ fields) d values (es.foldl Draft.put d) := by
  induction h generalizing d with
  | nil => exact .nil fields d
  | @cons e _ _ _ value _ ih => exact .cons value.startsUnlike (value.reads d) (ih (d.put e))

theorem isTold_take {n : ℕ} (h : ∀ e ∈ p.entries.drop n, e.IsDefault) :
    p.IsTold (p.entries.take n) := by
  have honce : (p.entries.map Entry.field).Nodup := by
    change [FieldName.name, .vehicle, .weighting, .turnCosts, .uTurnCosts].Nodup
    decide
  have hentries := List.take_append_drop n p.entries
  refine ⟨((List.take_sublist n _).map _).nodup honce, fun e he => ?_⟩
  rw [← hentries, List.map_append] at honce
  rw [← hentries] at he
  rcases List.mem_append.1 he with he | he
  · exact .inl he
  · exact .inr ⟨h e he, fun hmem => List.disjoint_of_nodup_append honce hmem
      (List.mem_map_of_mem he)⟩

theorem IsListedBy.exists_take (h : p.IsListedBy values) :
    ∃ n, (∀ e ∈ p.entries.drop n, e.IsDefault) ∧
      List.Forall₂ Entry.IsValue (p.entries.take n) values := by
  cases h with
  | complete values => exact ⟨5, nofun, values⟩
  | withoutUTurnCosts uTurnCosts values =>
    refine ⟨4, List.forall_mem_cons.2 ⟨.inr ?_, nofun⟩, values⟩
    rw [uTurnCosts]
  | withoutTurnCosts turnCosts uTurnCosts values =>
    refine ⟨3, List.forall_mem_cons.2 ⟨.inl ?_, List.forall_mem_cons.2 ⟨.inr ?_, nofun⟩⟩, values⟩
    · rw [turnCosts]
    · rw [uTurnCosts]

theorem IsListedBy.reads (h : p.IsListedBy values) (hlist : IsList values cs) :
    reader.Reads cs p := by
  obtain ⟨n, hdefault, hvalues⟩ := h.exists_take
  have hfields : record.fields = (p.entries.take n).map (·.field.reader) ++
      (p.entries.drop n).map (·.field.reader) := by
    rw [← List.map_append, List.take_append_drop]
    rfl
  have hfills := fillsInOrder hvalues ((p.entries.drop n).map (·.field.reader)) record.blank
  rw [← hfields] at hfills
  exact hfills.reads_list (isTold_take hdefault).finish_eq hlist

end Reading

section Rewording

variable {p : Profile} {m : String × List Char} {ms ms' : List (String × List Char)}
  {es es' : List Entry} {e e' : Entry} {cs : List Char}

theorem FieldName.text_injective : Function.Injective FieldName.text := by
  intro f g h
  cases f <;> cases g <;> first | rfl | exact absurd h (by decide)

theorem tells_cons_iff :
    Tells (m :: ms) es ↔
      (∃ e es', m.1 = e.field.text ∧ e.IsValue m.2 ∧ Tells ms es' ∧ es = e :: es') ∨
        (∀ f : FieldName, f.text ≠ m.1) ∧ IsJson m.2 ∧ Tells ms es := by
  constructor
  · intro h
    cases h with
    | @field e cs ms es value others => exact .inl ⟨e, es, rfl, value, others, rfl⟩
    | other unknown json others => exact .inr ⟨unknown, json, others⟩
  · obtain ⟨name, cs⟩ := m
    rintro (⟨e, es', rfl, value, others, rfl⟩ | ⟨unknown, json, others⟩)
    · exact .field value others
    · exact .other unknown json others

theorem Tells.perm (h : Tells ms es) (hperm : ms.Perm ms') :
    ∃ es', Tells ms' es' ∧ es.Perm es' := by
  induction hperm generalizing es with
  | nil => exact ⟨es, h, .refl es⟩
  | cons m _ ih =>
    rcases tells_cons_iff.1 h with ⟨e, es, hname, hvalue, hothers, rfl⟩ | ⟨hunknown, hjson, hothers⟩
    · obtain ⟨es', htells, hes⟩ := ih hothers
      exact ⟨e :: es', tells_cons_iff.2 (.inl ⟨e, es', hname, hvalue, htells, rfl⟩), hes.cons e⟩
    · obtain ⟨es', htells, hes⟩ := ih hothers
      exact ⟨es', tells_cons_iff.2 (.inr ⟨hunknown, hjson, htells⟩), hes⟩
  | swap m m' ms =>
    simp only [tells_cons_iff] at h ⊢
    rcases h with ⟨e, es, hname, hvalue, hrest, rfl⟩ | ⟨hunknown, hjson, hrest⟩
    · rcases hrest with ⟨e', es, hname', hvalue', hothers, rfl⟩ | ⟨hunknown', hjson', hothers⟩
      · exact ⟨e' :: e :: es, .inl ⟨e', _, hname', hvalue', .inl ⟨e, es, hname, hvalue, hothers,
          rfl⟩, rfl⟩, .swap e' e es⟩
      · exact ⟨e :: es, .inr ⟨hunknown', hjson', .inl ⟨e, es, hname, hvalue, hothers, rfl⟩⟩,
          .refl _⟩
    · rcases hrest with ⟨e', es, hname', hvalue', hothers, rfl⟩ | ⟨hunknown', hjson', hothers⟩
      · exact ⟨e' :: es, .inl ⟨e', es, hname', hvalue', .inr ⟨hunknown, hjson, hothers⟩, rfl⟩,
          .refl _⟩
      · exact ⟨es, .inr ⟨hunknown', hjson', .inr ⟨hunknown, hjson, hothers⟩⟩, .refl _⟩
  | trans _ _ ih₁ ih₂ =>
    obtain ⟨es₁, htells₁, hes₁⟩ := ih₁ h
    obtain ⟨es₂, htells₂, hes₂⟩ := ih₂ htells₁
    exact ⟨es₂, htells₂, hes₁.trans hes₂⟩

theorem IsTold.perm (h : p.IsTold es) (hperm : es.Perm es') : p.IsTold es' where
  once := (hperm.map _).nodup_iff.1 h.once
  each e he := by
    rw [← hperm.mem_iff, ← (hperm.map _).mem_iff]
    exact h.each e he

theorem IsDescribedBy.perm (h : p.IsDescribedBy ms) (hperm : ms.Perm ms') :
    p.IsDescribedBy ms' := by
  obtain ⟨es, htells, htold⟩ := h
  obtain ⟨es', htells', hes⟩ := htells.perm hperm
  exact ⟨es', htells', htold.perm hes⟩

theorem isDescribedBy_cons_other {name : String} (unknown : ∀ f : FieldName, f.text ≠ name)
    (json : IsJson cs) : p.IsDescribedBy ((name, cs) :: ms) ↔ p.IsDescribedBy ms := by
  constructor
  · rintro ⟨es, htells, htold⟩
    rcases tells_cons_iff.1 htells with ⟨e, _, hname, -⟩ | ⟨-, -, hothers⟩
    · exact absurd hname.symm (unknown e.field)
    · exact ⟨es, hothers, htold⟩
  · rintro ⟨es, htells, htold⟩
    exact ⟨es, .other unknown json htells, htold⟩

theorem Tells.exists_member (h : Tells ms es) (he : e ∈ es) : ∃ m ∈ ms, m.1 = e.field.text := by
  induction h with
  | nil => cases he
  | @field e' cs ms es value others ih =>
    rcases List.mem_cons.1 he with rfl | he
    · exact ⟨_, List.mem_cons_self, rfl⟩
    · obtain ⟨m, hm, hname⟩ := ih he
      exact ⟨m, List.mem_cons_of_mem _ hm, hname⟩
  | other unknown json others ih =>
    obtain ⟨m, hm, hname⟩ := ih he
    exact ⟨m, List.mem_cons_of_mem _ hm, hname⟩

theorem Entry.IsDefault.eq (h : e.IsDefault) (h' : e'.IsDefault) (hfield : e'.field = e.field) :
    e' = e := by
  rcases h with rfl | rfl <;> rcases h' with rfl | rfl <;> first | rfl | cases hfield

theorem Entry.IsDefault.eq_of_isValue (h : e.IsDefault) (hvalue : e.IsValue cs)
    (hvalue' : e'.IsValue cs) (hfield : e'.field = e.field) : e' = e := by
  rcases h with rfl | rfl
  · cases hvalue
    cases hvalue' <;> first | rfl | cases hfield
  · cases hvalue
    cases hvalue' with
    | uTurnCosts number =>
      obtain ⟨d, tail, heq, hstart⟩ := number.isNumeral.exists_start
      rw [List.cons.injEq] at heq
      exact absurd heq.1.symm (hstart.ne (by decide) rfl)
    | noUTurnCosts => rfl
    | _ => cases hfield

theorem isTold_cons_default (hdefault : e.IsDefault) (hnew : e.field ∉ es.map Entry.field) :
    p.IsTold (e :: es) ↔ p.IsTold es := by
  constructor
  · rintro ⟨once, each⟩
    refine ⟨(List.nodup_cons.1 once).2, fun e' he' => ?_⟩
    rcases each e' he' with hmem | ⟨hdefault', habsent⟩
    · rcases List.mem_cons.1 hmem with rfl | hmem
      · exact .inr ⟨hdefault, hnew⟩
      · exact .inl hmem
    · exact .inr ⟨hdefault', fun hmem => habsent (List.mem_cons_of_mem _ hmem)⟩
  · rintro ⟨once, each⟩
    refine ⟨List.nodup_cons.2 ⟨hnew, once⟩, fun e' he' => ?_⟩
    rcases each e' he' with hmem | ⟨hdefault', habsent⟩
    · exact .inl (List.mem_cons_of_mem e hmem)
    · by_cases hfield : e'.field = e.field
      · rw [hdefault.eq hdefault' hfield]
        exact .inl List.mem_cons_self
      · exact .inr ⟨hdefault', List.mem_cons.not.2 (not_or.2 ⟨hfield, habsent⟩)⟩

theorem isDescribedBy_cons_default (hdefault : e.IsDefault) (hvalue : e.IsValue cs)
    (absent : ∀ m ∈ ms, m.1 ≠ e.field.text) :
    p.IsDescribedBy ((e.field.text, cs) :: ms) ↔ p.IsDescribedBy ms := by
  have hnew {es : List Entry} (htells : Tells ms es) : e.field ∉ es.map Entry.field := by
    intro hmem
    obtain ⟨e', he', hfield⟩ := List.mem_map.1 hmem
    obtain ⟨m, hm, hname⟩ := htells.exists_member he'
    exact absent m hm (hname.trans (congrArg FieldName.text hfield))
  constructor
  · rintro ⟨es, htells, htold⟩
    rcases tells_cons_iff.1 htells with ⟨e', es, hname, hvalue', hothers, rfl⟩ | ⟨hunknown, -, -⟩
    · obtain rfl := hdefault.eq_of_isValue hvalue hvalue' (FieldName.text_injective hname).symm
      exact ⟨es, hothers, (isTold_cons_default hdefault (hnew hothers)).1 htold⟩
    · exact absurd rfl (hunknown e.field)
  · rintro ⟨es, htells, htold⟩
    exact ⟨e :: es, .field hvalue htells, (isTold_cons_default hdefault (hnew htells)).2 htold⟩

theorem Reworded.isDescribedBy_iff (h : Reworded ms ms') :
    p.IsDescribedBy ms ↔ p.IsDescribedBy ms' := by
  induction h with
  | reordered perm => exact ⟨fun h => h.perm perm, fun h => h.perm perm.symm⟩
  | other ms unknown json => exact (isDescribedBy_cons_other unknown json).symm
  | spelledOut isDefault value absent =>
    exact (isDescribedBy_cons_default isDefault value absent).symm
  | symm _ ih => exact ih.symm
  | trans _ _ ih₁ ih₂ => exact ih₁.trans ih₂

end Rewording

section Parsing

variable {p : Profile} {ms ms' : List (String × List Char)} {es : List Entry}
  {values : List (List Char)} {text text' : String}

theorem IsDescribedBy.parse_eq (h : p.IsDescribedBy ms) (htext : IsObjectText ms text) :
    parse text = .ok p := by
  obtain ⟨cs, hobject, helement⟩ := htext
  exact mapError_document (h.reads hobject) helement

theorem IsListedBy.parse_eq (h : p.IsListedBy values) (htext : IsListText values text) :
    parse text = .ok p := by
  obtain ⟨cs, hlist, helement⟩ := htext
  exact mapError_document (h.reads hlist) helement

theorem Tells.parse_eq_error (h : Tells ms es) (once : (es.map Entry.field).Nodup)
    (untold : .uTurnCosts ∉ es.map Entry.field) {number : List Char} (numeral : IsNumeral number)
    (range : ∀ x, ¬ IsNumber x number)
    (htext : IsObjectText (ms ++ (FieldName.uTurnCosts.text, number) :: ms') text) :
    parse text = .error (.configuration .malformed) := by
  obtain ⟨cs, hobject, helement⟩ := htext
  exact mapError_document_error (h.refuses once untold numeral range hobject) helement

theorem exists_isTold (once : (es.map Entry.field).Nodup)
    (required : ∀ f ∈ [FieldName.name, .vehicle, .weighting], f ∈ es.map Entry.field) :
    ∃ p : Profile, p.IsTold es := by
  have hentry (f : FieldName) :
      ∃ e : Entry, e.field = f ∧ (e ∈ es ∨ e.IsDefault ∧ e.field ∉ es.map Entry.field) := by
    by_cases hf : f ∈ es.map Entry.field
    · obtain ⟨e, he, hfield⟩ := List.mem_map.1 hf
      exact ⟨e, hfield, .inl he⟩
    · cases f with
      | name => exact absurd (required _ (by decide)) hf
      | vehicle => exact absurd (required _ (by decide)) hf
      | weighting => exact absurd (required _ (by decide)) hf
      | turnCosts => exact ⟨.turnCosts false, rfl, .inr ⟨.inl rfl, hf⟩⟩
      | uTurnCosts => exact ⟨.uTurnCosts none, rfl, .inr ⟨.inr rfl, hf⟩⟩
  obtain ⟨e₁, hname, htold₁⟩ := hentry .name
  obtain ⟨e₂, hvehicle, htold₂⟩ := hentry .vehicle
  obtain ⟨e₃, hweighting, htold₃⟩ := hentry .weighting
  obtain ⟨e₄, hturnCosts, htold₄⟩ := hentry .turnCosts
  obtain ⟨e₅, huTurnCosts, htold₅⟩ := hentry .uTurnCosts
  -- An entry of a given field has one constructor only.
  cases e₁ <;> cases hname
  cases e₂ <;> cases hvehicle
  cases e₃ <;> cases hweighting
  cases e₄ <;> cases hturnCosts
  cases e₅ <;> cases huTurnCosts
  rename_i name vehicle weighting turnCosts uTurnCosts
  refine ⟨⟨name, vehicle, weighting, turnCosts, uTurnCosts⟩, once, ?_⟩
  simp only [entries, List.forall_mem_cons, List.not_mem_nil, false_implies, implies_true, and_true]
  exact ⟨htold₁, htold₂, htold₃, htold₄, htold₅⟩

/-- A profile is read from its fields alone. Every object that gives the fields without a default
    once, and the others at most once, has a profile; the order of its members, members of other
    names and defaults that are spelled out make no difference to it; and a list of its values, with
    or without the defaults at its end, gives the same one. A cost beyond the doubles is a fault.
    Any other is read as what its digits are worth, which is the nearest double if they are few. -/
theorem parse_of_recognised_fields :
    (∀ ms es, Tells ms es → (es.map Entry.field).Nodup →
      (∀ f ∈ [FieldName.name, .vehicle, .weighting], f ∈ es.map Entry.field) →
      ∃ p : Profile, p.IsTold es ∧ ∀ text, IsObjectText ms text → parse text = .ok p) ∧
    (∀ (p : Profile) (ms ms' : List (String × List Char)), p.IsDescribedBy ms → Reworded ms ms' →
      ∀ text text', IsObjectText ms text → IsObjectText ms' text' →
        parse text = .ok p ∧ parse text' = .ok p) ∧
    (∀ (p : Profile) (values : List (List Char)), p.IsListedBy values →
      ∀ text, IsListText values text → parse text = .ok p) ∧
    (∀ ms ms' es number, Tells ms es → (es.map Entry.field).Nodup →
      .uTurnCosts ∉ es.map Entry.field → IsNumeral number → (∀ x, ¬ IsNumber x number) →
      ∀ text, IsObjectText (ms ++ (FieldName.uTurnCosts.text, number) :: ms') text →
        parse text = .error (.configuration .malformed)) ∧
    (∀ (n : Numeral) (cs : List Char) (q : ℚ), n.IsWritten cs → n.IsWorth q →
      ∃ x, IsPlain x q ∧ IsNumber x cs ∧ IsNumber (-x) ('-' :: cs)) ∧
    ∀ n : Numeral, n.significand < 2 ^ 53 → n.exponent.natAbs ≤ 22 →
      n.IsWorth (nearestDouble n.exact) := by
  refine ⟨?described, ?reworded, ?listed, ?outOfRange, ?numbers, ?nearest⟩
  case described =>
    intro ms es htells once required
    obtain ⟨p, htold⟩ := exists_isTold once required
    exact ⟨p, htold, fun text htext => IsDescribedBy.parse_eq ⟨es, htells, htold⟩ htext⟩
  case reworded =>
    intro p ms ms' hp hreworded text text' htext htext'
    exact ⟨hp.parse_eq htext, (hreworded.isDescribedBy_iff.1 hp).parse_eq htext'⟩
  case listed => exact fun p values hvalues text htext => hvalues.parse_eq htext
  case outOfRange =>
    intro ms ms' es number htells once untold numeral range text htext
    exact htells.parse_eq_error once untold numeral range htext
  case numbers =>
    intro n cs q hwritten hworth
    obtain ⟨x, -, hplain⟩ := hworth.exists_value?
    exact ⟨x, hplain, .unsigned hwritten hworth hplain, .negative hwritten hworth hplain⟩
  case nearest => exact fun n hsmall hexponent => Numeral.isWorth_nearest hsmall hexponent

def minusFifty : List Char := ['-', '0', '.', '5', '0', 'E', '+', '2']

theorem isNumber_minusFifty : IsNumber (-50) minusFifty := by
  have hdigits : Numeral.IsWritten ⟨['0'], ['5', '0'], 2⟩ ['0', '.', '5', '0', 'E', '+', '2'] :=
    .parts .zero (.point ⟨by decide, List.all_eq_true.1 rfl⟩)
      (@Numeral.IsPowerPart.plus 'E' ['2'] (.inr rfl) ⟨by decide, List.all_eq_true.1 rfl⟩)
  exact (isNumber_of_value? hdigits (by decide)).2

theorem isText_escaped_name :
    IsText "name" ['"', 'n', '\\', 'u', '0', '0', '6', '1', 'm', 'e', '"'] := by
  have hescaped : Spells 'a' ['\\', 'u', '0', '0', '6', '1'] :=
    .number (@HexWord.digits 0 0 6 1 _ _ _ _ (.lower (by decide)) (.lower (by decide))
      (.lower (by decide)) (.lower (by decide)))
  refine ⟨[['n'], _, ['m'], ['e']], .cons (.plain ?_ ?_ ?_) (.cons hescaped
    (.cons (.plain ?_ ?_ ?_) (.cons (.plain ?_ ?_ ?_) .nil))), rfl⟩ <;> decide

/-- A list with an object in it, whose only name holds a bracket, half a surrogate pair and a quote:
    it cannot be decoded but is passed over. -/
def nested : List Char :=
  ['[', '\x7b', '"', ']', '\\', 'u', 'd', '8', '0', '0', '\\', '"', '"', ':', '[', ' ', ']', '\x7d',
    ',', 'n', 'u', 'l', 'l', ']']

theorem isJson_nested : IsJson nested := by
  have hword : HexWord 0xD800 ['d', '8', '0', '0'] :=
    @HexWord.digits 13 8 0 0 _ _ _ _ (.lower (by decide)) (.lower (by decide))
      (.lower (by decide)) (.lower (by decide))
  have hquote : ('"', '"') ∈ escapeLetters := by decide
  have hname : IsString ['"', ']', '\\', 'u', 'd', '8', '0', '0', '\\', '"', '"'] := by
    refine ⟨[[']'], ['\\', 'u', 'd', '8', '0', '0'], ['\\', '"']], ?_, rfl⟩
    simp only [List.forall_mem_cons]
    exact ⟨.plain (by decide) (by decide) (by decide), .number hword, .letter hquote, nofun⟩
  have hempty : IsJson ['[', ' ', ']'] := @IsJson.empty .list [' '] (by simp [IsBlanks])
  have hobject := IsJson.items .object
    (.cons (.among isBlanks_nil hname isBlanks_nil (isElement_self ['[', ' ', ']'])) .nil)
    (List.forall_mem_cons.2 ⟨hempty, nofun⟩)
  exact IsJson.items .list (.cons (isElement_self _) (.cons (isElement_self _) .nil))
    (List.forall_mem_cons.2 ⟨hobject, List.forall_mem_cons.2 ⟨.null, nofun⟩⟩)

def nearGreatest : Numeral :=
  ⟨['1'], ['7', '9', '7', '6', '9', '3', '1', '3', '4', '8', '6', '2', '3', '1', '5', '8'], 308⟩

def nearGreatestText : List Char :=
  nearGreatest.whole ++ ('.' :: nearGreatest.fraction ++ ['e', '3', '0', '8'])

theorem isWritten_nearGreatest : nearGreatest.IsWritten nearGreatestText :=
  .parts (.digits (by decide) ⟨by decide, List.all_eq_true.1 rfl⟩)
    (.point ⟨by decide, List.all_eq_true.1 rfl⟩)
    (@Numeral.IsPowerPart.bare 'e' ['3', '0', '8'] (.inl rfl) ⟨by decide, List.all_eq_true.1 rfl⟩)

theorem not_isNumber_nearGreatest (x : Float) : ¬ IsNumber x nearGreatestText :=
  not_isNumber_of_value? isWritten_nearGreatest (by decide +kernel)

set_option maxRecDepth 2000 in
theorem parse_reworded_profiles :
    let text := "\n\x7b\"old\" :[\x7b\"]\\ud800\\\"\":[ ]\x7d,null],\"u_turn_costs\":-0.50E+2," ++
      "\"vehicle\":\"bike\",\"n\\u0061me\":\"car\",\"weighting\":\"fastest\"\x7d "
    let text' := "\x7b\"weighting\":\"fastest\",\"name\":\"car\",\"vehicle\":\"bike\"," ++
      "\"u_turn_costs\":-0.50E+2,\"turn_costs\":false\x7d"
    let list := "[\"car\",\"bike\",\"fastest\",false,-0.50E+2]"
    let list' := "[\"car\", \"bike\",\"fastest\"]"
    let beyond := "\x7b\"u_turn_costs\":1.7976931348623158e308\x7d"
    let p : Profile := ⟨"car", "bike", "fastest", false, some (-50)⟩
    let told : List Entry :=
      [.uTurnCosts (some (-50)), .vehicle "bike", .name "car", .weighting "fastest"]
    (∃ q : Profile, q.IsTold told ∧ parse text = .ok q) ∧
      parse text = .ok p ∧ parse text' = .ok p ∧ parse list = .ok p ∧
      parse list' = .ok { p with uTurnCosts := none } ∧
      parse beyond = .error (.configuration .malformed) ∧
      ∃ x, IsNumber x ['0', '.', '1'] ∧ exactValue? x = some (nearestDouble (1 / 10)) := by
  intro text text' list list' beyond p told
  obtain ⟨described, reworded, listed, outOfRange, numbers, nearest⟩ := parse_of_recognised_fields
  let ms : List (String × List Char) :=
    [("u_turn_costs", minusFifty), ("vehicle", writeText "bike"), ("name", writeText "car"),
      ("weighting", writeText "fastest")]
  have hblanks : IsBlanks [' '] := by simp [IsBlanks]
  have hnewline : IsBlanks ['\n'] := by simp [IsBlanks]
  have hunknown : ∀ f : FieldName, f.text ≠ "old" := by
    intro f
    cases f <;> decide
  have htells : Tells (("old", nested) :: ms) told :=
    .other hunknown isJson_nested <| .field (.uTurnCosts isNumber_minusFifty) <|
      .field (.vehicle (isText_writeText _)) <| .field (.name (isText_writeText _)) <|
      .field (.weighting (isText_writeText _)) .nil
  have htext : IsObjectText (("old", nested) :: ms) text := by
    refine ⟨_, ⟨_, .cons (.among isBlanks_nil (isText_writeText _) hblanks (isElement_self _)) <|
      .cons (isMember_writeMember _) <| .cons (isMember_writeMember _) <|
      .cons (.among isBlanks_nil isText_escaped_name isBlanks_nil (isElement_self _)) <|
      .cons (isMember_writeMember _) .nil, rfl⟩, ?_⟩
    convert IsElement.among hnewline hblanks
    decide +kernel
  have honce : (told.map Entry.field).Nodup := by decide
  have htold : p.IsTold told := by
    refine ⟨honce, ?_⟩
    simp [entries, p, told, Entry.IsDefault, Entry.field]
  have hreworded : Reworded (("old", nested) :: ms)
      (("turn_costs", writeFlag false) :: ms).reverse := by
    refine .trans (.symm (.other ms hunknown isJson_nested)) (.trans
      (.spelledOut (.inl rfl) .withoutTurnCosts ?_) (.reordered (List.reverse_perm _).symm))
    decide
  have htext' : IsObjectText (("turn_costs", writeFlag false) :: ms).reverse text' :=
    isObjectText_of_eq (by decide +kernel)
  have hlisted : p.IsListedBy
      [writeText "car", writeText "bike", writeText "fastest", writeFlag false, minusFifty] :=
    .complete <| .cons (.name (isText_writeText _)) <| .cons (.vehicle (isText_writeText _)) <|
      .cons (.weighting (isText_writeText _)) <| .cons .withoutTurnCosts <|
      .cons (.uTurnCosts isNumber_minusFifty) .nil
  have hlist : IsListText
      [writeText "car", writeText "bike", writeText "fastest", writeFlag false, minusFifty]
      list := by
    refine ⟨_, ⟨_, List.forall₂_same.2 fun value _ => isElement_self value, rfl⟩, ?_⟩
    convert isElement_self _
    decide +kernel
  have hlisted' : ({ p with uTurnCosts := none } : Profile).IsListedBy
      [writeText "car", writeText "bike", writeText "fastest"] :=
    .withoutTurnCosts rfl rfl <| .cons (.name (isText_writeText _)) <|
      .cons (.vehicle (isText_writeText _)) <| .cons (.weighting (isText_writeText _)) .nil
  have hlist' : IsListText [writeText "car", writeText "bike", writeText "fastest"] list' := by
    refine ⟨_, ⟨_, .cons (isElement_self _) <| .cons (.among hblanks isBlanks_nil) <|
      .cons (isElement_self _) .nil, rfl⟩, ?_⟩
    convert isElement_self _
    decide +kernel
  have htenth : Numeral.IsWritten ⟨['0'], ['1'], 0⟩ ['0', '.', '1'] :=
    .parts .zero (.point ⟨by decide, List.all_eq_true.1 rfl⟩) .absent
  have hexact : Numeral.exact ⟨['0'], ['1'], 0⟩ = 1 / 10 := by
    have hsignificand : Numeral.significand ⟨['0'], ['1'], 0⟩ = 1 := rfl
    have hexponent : Numeral.exponent ⟨['0'], ['1'], 0⟩ = -1 := rfl
    rw [Numeral.exact, hsignificand, hexponent]
    norm_num
  have hbeyond := outOfRange [] [] [] nearGreatestText .nil List.nodup_nil List.not_mem_nil
    (.unsigned isWritten_nearGreatest) not_isNumber_nearGreatest beyond
    (isObjectText_of_eq (by decide +kernel))
  obtain ⟨q, hq, hparse⟩ := described _ told htells honce (by decide)
  obtain ⟨hfirst, hsecond⟩ :=
    reworded p _ _ ⟨told, htells, htold⟩ hreworded text text' htext htext'
  obtain ⟨x, hplain, hx, -⟩ := numbers _ _ _ htenth (nearest _ (by decide) (by decide))
  exact ⟨⟨q, hq, hparse text htext⟩, hfirst, hsecond, listed p _ hlisted list hlist,
    listed _ _ hlisted' list' hlist', hbeyond, x, hx, hexact ▸ hplain.value⟩

section Nearest

def pastHundred : Numeral :=
  ⟨['1', '0', '0'], ['0', '0', '0', '0', '0', '0', '0', '0', '0', '0', '0', '0', '0', '1'], 0⟩

def pastHundredText : List Char := pastHundred.whole ++ ('.' :: pastHundred.fraction ++ [])

theorem isWritten_pastHundred : pastHundred.IsWritten pastHundredText :=
  .parts (.digits (by decide) ⟨by decide, List.all_eq_true.1 rfl⟩)
    (.point ⟨by decide, List.all_eq_true.1 rfl⟩) .absent

def costFirst (cs : List Char) : List (String × List Char) :=
  [("u_turn_costs", cs), ("name", writeText "a"), ("vehicle", writeText "car"),
    ("weighting", writeText "fastest")]

theorem parse_costFirst {x : Float} {cs : List Char} (h : IsNumber x cs)
    (htext : text.toList = writeObject (costFirst cs)) :
    parse text = .ok ⟨"a", "car", "fastest", false, some x⟩ := by
  have htells : Tells (costFirst cs)
      [.uTurnCosts (some x), .name "a", .vehicle "car", .weighting "fastest"] :=
    .field (.uTurnCosts h) <| .field (.name (isText_writeText _)) <|
      .field (.vehicle (isText_writeText _)) <| .field (.weighting (isText_writeText _)) .nil
  refine IsDescribedBy.parse_eq ⟨_, htells, ?_, ?_⟩ (isObjectText_of_eq htext)
  · change [FieldName.uTurnCosts, .name, .vehicle, .weighting].Nodup
    decide
  · simp [entries, Entry.IsDefault, Entry.field]

set_option maxRecDepth 2000 in
/-- Numbers of many digits need not be read as the nearest double, nor read at all. -/
theorem parse_misses_nearest :
    let text := "\x7b\"u_turn_costs\":100.00000000000001,\"name\":\"a\"," ++
      "\"vehicle\":\"car\",\"weighting\":\"fastest\"\x7d"
    let text' := "\x7b\"u_turn_costs\":1.7976931348623158e308,\"name\":\"a\"," ++
      "\"vehicle\":\"car\",\"weighting\":\"fastest\"\x7d"
    (IsObjectText (costFirst pastHundredText) text ∧ pastHundred.IsWritten pastHundredText ∧
      exactValue? 100.00000000000001 = some (nearestDouble pastHundred.exact) ∧
      parse text = .ok ⟨"a", "car", "fastest", false, some 100⟩ ∧
      (100 : Float) ≠ 100.00000000000001) ∧
    IsObjectText (costFirst nearGreatestText) text' ∧ nearGreatest.IsWritten nearGreatestText ∧
      exactValue? 1.7976931348623158e308 = some (nearestDouble nearGreatest.exact) ∧
      parse text' = .error (.configuration .malformed) := by
  intro text text'
  have hnumber := (isNumber_of_value? isWritten_pastHundred (x := 100) (by decide +kernel)).1
  have htext : text.toList = writeObject (costFirst pastHundredText) := by decide +kernel
  have htext' : text'.toList = writeObject (costFirst nearGreatestText) := by decide +kernel
  have hfault := Tells.parse_eq_error .nil List.nodup_nil List.not_mem_nil
    (.unsigned isWritten_nearGreatest) not_isNumber_nearGreatest (isObjectText_of_eq htext')
  exact ⟨⟨isObjectText_of_eq htext, isWritten_pastHundred, by decide +kernel,
      parse_costFirst hnumber htext, by decide +kernel⟩,
    isObjectText_of_eq htext', isWritten_nearGreatest, by decide +kernel, hfault⟩

end Nearest

end Parsing

end Profile

end RoutingCosts
