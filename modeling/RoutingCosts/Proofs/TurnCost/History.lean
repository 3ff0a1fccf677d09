import Mathlib.Data.Set.Card
import RoutingCosts.Proofs.Number.Words
import RoutingCosts.Proofs.TurnCost.Contract

set_option autoImplicit false

namespace RoutingCosts

namespace Turn

def IsBetweenEdges (turn : Turn) : Prop :=
  turn.inEdge ≠ invalidEdge ∧ turn.outEdge ≠ invalidEdge

instance (turn : Turn) : Decidable turn.IsBetweenEdges :=
  inferInstanceAs (Decidable (turn.inEdge ≠ invalidEdge ∧ turn.outEdge ≠ invalidEdge))

end Turn

def IsUnfit (w : Float) : Prop := w.isNaN = true ∨ w.isInf = true ∨ w < 0

instance (w : Float) : Decidable (IsUnfit w) :=
  inferInstanceAs (Decidable (w.isNaN = true ∨ w.isInf = true ∨ w < 0))

theorem isCharge_iff {w : Float} : isCharge w = true ↔ ¬ IsUnfit w := by
  rw [isCharge, isFinite_eq_not, IsUnfit, Bool.and_eq_true, Bool.not_eq_true',
    Bool.or_eq_false_iff, Bool.not_eq_true', decide_eq_false_iff_not, not_or, not_or,
    Bool.not_eq_true, Bool.not_eq_true, and_assoc]

namespace TurnTable

namespace Entry

def turn : Entry → Turn
  | .cost turn _ => turn
  | .restriction turn => turn

def recorded : Entry → TurnCost
  | .cost _ w => .cost w
  | .restriction _ => .restricted

def IsRefused : Entry → Prop
  | .cost _ w => IsUnfit w
  | .restriction _ => False

instance : DecidablePred IsRefused
  | .cost _ w => inferInstanceAs (Decidable (IsUnfit w))
  | .restriction _ => inferInstanceAs (Decidable False)

def Sets (turn : Turn) (e : Entry) : Prop := ¬ e.IsRefused ∧ e.turn = turn

instance (turn : Turn) : DecidablePred (Sets turn) := fun e =>
  inferInstanceAs (Decidable (¬ e.IsRefused ∧ e.turn = turn))

theorem not_sets_of_isRefused {e : Entry} (h : e.IsRefused) (turn : Turn) : ¬ e.Sets turn :=
  fun hs => hs.1 h

end Entry

section PutCost

variable {t : TurnTable} {turn : Turn} {w : Float}

theorem putCost_of_isUnfit (h : IsUnfit w) :
    t.putCost turn w = (.error (.invalidTurnCost turn w), t) :=
  if_neg (by rwa [isCharge_iff, not_not])

theorem putCost_of_not_isUnfit (h : ¬ IsUnfit w) :
    t.putCost turn w = (.ok (), t.insert turn (.cost w)) :=
  if_pos (isCharge_iff.2 h)

theorem putCost_eq_error_iff {f : CostError} :
    (t.putCost turn w).1 = .error f ↔ IsUnfit w ∧ f = .invalidTurnCost turn w := by
  by_cases h : IsUnfit w
  · rw [putCost_of_isUnfit h]
    simp [h, eq_comm]
  · rw [putCost_of_not_isUnfit h]
    simp [h]

/-- A cost that is refused changes nothing. -/
theorem putCost_unchanged {f : CostError} (h : (t.putCost turn w).1 = .error f) :
    (t.putCost turn w).2 = t := by
  rw [putCost_of_isUnfit (putCost_eq_error_iff.1 h).1]

theorem addCost_eq_error_iff {f : CostError} :
    t.addCost turn w = .error f ↔ IsUnfit w ∧ f = .invalidTurnCost turn w := by
  rw [← putCost_eq_error_iff (t := t), addCost]
  cases (t.putCost turn w).1 <;> simp [Except.map]

end PutCost

theorem add_of_isRefused {t : TurnTable} {e : Entry} (h : e.IsRefused) : t.add e = t := by
  cases e with
  | cost turn w => exact congrArg Prod.snd (putCost_of_isUnfit h)
  | restriction turn => exact h.elim

theorem add_of_not_isRefused {t : TurnTable} {e : Entry} (h : ¬ e.IsRefused) :
    t.add e = t.insert e.turn e.recorded := by
  cases e with
  | cost turn w => exact congrArg Prod.snd (putCost_of_not_isUnfit h)
  | restriction turn => rfl

theorem build_concat (entries : List Entry) (e : Entry) :
    build (entries ++ [e]) = (build entries).add e := by
  simp [build]

def lastFor? (entries : List Entry) (turn : Turn) : Option Entry :=
  (entries.filter (Entry.Sets turn ·)).getLast?

theorem lastFor?_concat (entries : List Entry) (e : Entry) (turn : Turn) :
    lastFor? (entries ++ [e]) turn = if e.Sets turn then some e else lastFor? entries turn := by
  by_cases h : e.Sets turn <;> simp [lastFor?, h]

theorem lastFor?_ne_none_iff {entries : List Entry} {turn : Turn} :
    lastFor? entries turn ≠ none ↔ ∃ e ∈ entries, e.Sets turn := by
  rw [lastFor?, Ne, List.getLast?_eq_none_iff, List.filter_eq_nil_iff]
  simp

theorem get?_build (entries : List Entry) (turn : Turn) :
    (build entries).get? turn = (lastFor? entries turn).map Entry.recorded := by
  induction entries using List.reverseRecOn with
  | nil => rfl
  | append_singleton entries e ih =>
    rw [build_concat, lastFor?_concat]
    by_cases h : e.IsRefused
    · rw [add_of_isRefused h, if_neg (Entry.not_sets_of_isRefused h turn), ih]
    · rw [add_of_not_isRefused h, Assoc.get?_insert, ih]
      by_cases ht : e.turn = turn
      · rw [if_pos ht, if_pos ⟨h, ht⟩, Option.map_some]
      · rw [if_neg ht, if_neg fun hs => ht hs.2]

theorem nodup_keys_build (entries : List Entry) : (build entries).keys.Nodup := by
  induction entries using List.reverseRecOn with
  | nil => exact List.nodup_nil
  | append_singleton entries e ih =>
    rw [build_concat]
    by_cases h : e.IsRefused
    · rwa [add_of_isRefused h]
    · rw [add_of_not_isRefused h]
      exact Assoc.nodup_keys_insert ih _ _

theorem mem_keys_build {entries : List Entry} {turn : Turn} :
    turn ∈ (build entries).keys ↔ ∃ e ∈ entries, e.Sets turn := by
  have hkey : turn ∉ (build entries).keys ↔ (build entries).get? turn = none :=
    Assoc.find?_eq_none_iff.symm
  rw [← lastFor?_ne_none_iff, ← not_iff_not, hkey, get?_build, Option.map_eq_none_iff, not_not]

theorem size_build (entries : List Entry) :
    (build entries).size = {turn | ∃ e ∈ entries, e.Sets turn}.ncard := by
  have hkeys :
      {turn | ∃ e ∈ entries, e.Sets turn} = ((build entries).keys.toFinset : Set Turn) := by
    ext turn
    rw [Set.mem_ofPred_eq, List.coe_toFinset, Set.mem_ofPred_eq, mem_keys_build]
  rw [hkeys, Set.ncard_coe_finset, List.toFinset_card_of_nodup (nodup_keys_build entries)]
  exact (List.length_map ..).symm

section Weight

variable {t : TurnTable} {uTurn : Option Float} {turn : Turn}

theorem weight_of_not_isBetweenEdges (h : ¬ turn.IsBetweenEdges) : t.weight uTurn turn = 0 := by
  rw [TurnTable.weight, if_pos]
  simpa only [Turn.IsBetweenEdges, not_and_or, not_not] using h

theorem weight_turnBack (h : turn.IsBetweenEdges) (hback : turn.inEdge = turn.outEdge) :
    t.weight uTurn turn = uTurn.getD restrictedWeight := by
  rw [TurnTable.weight, if_neg (not_or.2 h), if_pos hback]

theorem weight_of_ne (h : turn.IsBetweenEdges) (hne : turn.inEdge ≠ turn.outEdge) :
    t.weight uTurn turn = (t.get? turn).elim 0 TurnCost.weight := by
  rw [TurnTable.weight, if_neg (not_or.2 h), if_neg hne]
  cases t.get? turn <;> rfl

theorem weight_eq_of_get?_eq {t' : TurnTable} (h : ∀ turn, t.get? turn = t'.get? turn)
    (uTurn : Option Float) (turn : Turn) : t.weight uTurn turn = t'.weight uTurn turn := by
  rw [TurnTable.weight, TurnTable.weight, h turn]

end Weight

/-- What a table tells after a history of entries. -/
structure KeepsLast (entries : List Entry) : Prop where
  refusal : ∀ turn w f, (build entries).addCost turn w = .error f ↔
    IsUnfit w ∧ f = .invalidTurnCost turn w
  refused : ∀ turn w f, ((build entries).putCost turn w).1 = .error f →
    ((build entries).putCost turn w).2 = build entries
  unchanged : ∀ e : Entry, e.IsRefused → build (entries ++ [e]) = build entries
  get? : ∀ turn, (build entries).get? turn = (lastFor? entries turn).map Entry.recorded
  size : (build entries).size = {turn | ∃ e ∈ entries, e.Sets turn}.ncard

theorem keepsLast (entries : List Entry) : KeepsLast entries where
  refusal _ _ _ := addCost_eq_error_iff
  refused _ _ _ := putCost_unchanged
  unchanged e h := by rw [build_concat, add_of_isRefused h]
  get? := get?_build entries
  size := size_build entries

/-- Refused entries are put in, and entries for different turns change places. -/
inductive Rearranged : List Entry → List Entry → Prop
  | refl (entries : List Entry) : Rearranged entries entries
  | refused {e : Entry} (h : e.IsRefused) (before after : List Entry) :
      Rearranged (before ++ after) (before ++ e :: after)
  | swap {e f : Entry} (h : e.turn ≠ f.turn) (before after : List Entry) :
      Rearranged (before ++ e :: f :: after) (before ++ f :: e :: after)
  | symm {entries entries' : List Entry} (h : Rearranged entries entries') :
      Rearranged entries' entries
  | trans {entries entries' entries'' : List Entry} (h : Rearranged entries entries')
      (h' : Rearranged entries' entries'') : Rearranged entries entries''

theorem Rearranged.lastFor?_eq {entries entries' : List Entry} (h : Rearranged entries entries')
    (turn : Turn) : lastFor? entries turn = lastFor? entries' turn := by
  have hfilter : entries.filter (Entry.Sets turn ·) = entries'.filter (Entry.Sets turn ·) := by
    induction h with
    | refl entries => rfl
    | refused h before after => simp [Entry.not_sets_of_isRefused h turn]
    | @swap e f h before after =>
      -- at most one of the two is for this turn, so their order does not matter
      have hne : ¬ (e.Sets turn ∧ f.Sets turn) := fun hs => h (hs.1.2.trans hs.2.2.symm)
      by_cases he : e.Sets turn <;> by_cases hf : f.Sets turn
      · exact absurd ⟨he, hf⟩ hne
      · simp [he, hf]
      · simp [he, hf]
      · simp [he, hf]
    | symm _ ih => exact ih.symm
    | trans _ _ ih ih' => exact ih.trans ih'
  rw [lastFor?, lastFor?, hfilter]

structure Indistinguishable (t t' : TurnTable) : Prop where
  get? : ∀ turn, t.get? turn = t'.get? turn
  size : t.size = t'.size
  costs : ∀ uTurn costs, TurnCosts.ofTable t uTurn = .ok costs →
    ∃ costs', TurnCosts.ofTable t' uTurn = .ok costs' ∧
      ∀ turn, costs'.weight turn = costs.weight turn ∧ costs'.time turn = costs.time turn

theorem Rearranged.indistinguishable {entries entries' : List Entry}
    (h : Rearranged entries entries') : Indistinguishable (build entries) (build entries') := by
  have hget (turn : Turn) : (build entries).get? turn = (build entries').get? turn := by
    rw [get?_build, get?_build, h.lastFor?_eq turn]
  refine ⟨hget, ?_, fun uTurn costs hcosts => ?_⟩
  · have hset : {turn | ∃ e ∈ entries, e.Sets turn} = {turn | ∃ e ∈ entries', e.Sets turn} := by
      ext turn
      rw [Set.mem_ofPred_eq, Set.mem_ofPred_eq, ← lastFor?_ne_none_iff, ← lastFor?_ne_none_iff,
        h.lastFor?_eq turn]
    rw [size_build, size_build, hset]
  · obtain ⟨hcharge, rfl⟩ := TurnCosts.ofTable_eq_ok_iff.1 hcosts
    refine ⟨_, TurnCosts.ofTable_eq_ok_iff.2 ⟨hcharge, rfl⟩, fun turn => ?_⟩
    simp only [TurnCosts.weight, TurnCosts.time, weight_eq_of_get?_eq hget uTurn turn, and_self]

end TurnTable

namespace TurnCosts

/-- The weight of a turn by the last of the entries, where the table is asked at all. -/
structure AnswersByLast (costs : TurnCosts) (entries : List TurnTable.Entry)
    (uTurn : Option Float) (turn : Turn) : Prop where
  noEdge : ¬ turn.IsBetweenEdges → costs.weight turn = pure 0
  turnBack : turn.IsBetweenEdges → turn.inEdge = turn.outEdge →
    costs.weight turn = pure (uTurn.getD restrictedWeight)
  unset : turn.IsBetweenEdges → turn.inEdge ≠ turn.outEdge → (∀ e ∈ entries, ¬ e.Sets turn) →
    costs.weight turn = pure 0
  cost : turn.IsBetweenEdges → turn.inEdge ≠ turn.outEdge → ∀ turn' w,
    TurnTable.lastFor? entries turn = some (.cost turn' w) → costs.weight turn = pure w
  restriction : turn.IsBetweenEdges → turn.inEdge ≠ turn.outEdge → ∀ turn',
    TurnTable.lastFor? entries turn = some (.restriction turn') →
      costs.weight turn = pure restrictedWeight

theorem answersByLast_table (entries : List TurnTable.Entry) (uTurn : Option Float) (turn : Turn) :
    AnswersByLast (.table (.build entries) uTurn) entries uTurn turn := by
  have hget := TurnTable.get?_build entries turn
  refine ⟨fun h => ?_, fun h hback => ?_, fun h hne hunset => ?_, fun h hne turn' w hlast => ?_,
    fun h hne turn' hlast => ?_⟩ <;> simp only [weight]
  · rw [TurnTable.weight_of_not_isBetweenEdges h]
  · rw [TurnTable.weight_turnBack h hback]
  · have hnone : TurnTable.lastFor? entries turn = none :=
      not_not.1 fun hs => by
        obtain ⟨e, he, hsets⟩ := TurnTable.lastFor?_ne_none_iff.1 hs
        exact hunset e he hsets
    rw [TurnTable.weight_of_ne h hne, hget, hnone]
    rfl
  · rw [TurnTable.weight_of_ne h hne, hget, hlast]
    rfl
  · rw [TurnTable.weight_of_ne h hne, hget, hlast]
    rfl

/-- Costs made from a table answer by the last entry for a turn, whatever was refused and however
    the entries for different turns were mixed. -/
theorem table_answers_by_last_entry (entries : List TurnTable.Entry) (uTurn : Option Float)
    (costs : TurnCosts) (made : ofTable (.build entries) uTurn = .ok costs) :
    TurnTable.KeepsLast entries ∧ (∀ turn, costs.AnswersByLast entries uTurn turn) ∧
      ∀ entries', TurnTable.Rearranged entries entries' →
        TurnTable.Indistinguishable (.build entries) (.build entries') := by
  obtain ⟨_, rfl⟩ := ofTable_eq_ok_iff.1 made
  exact ⟨TurnTable.keepsLast entries, answersByLast_table entries uTurn,
    fun _ h => h.indistinguishable⟩

theorem table_answers_by_last_entry_of_overwritten_turns :
    let a : Turn := ⟨1, 2, 3⟩
    let b : Turn := ⟨1, 2, 4⟩
    let entries : List TurnTable.Entry :=
      [.restriction a, .cost a 15, .cost a (-1), .cost b 7, .restriction b]
    let entries' : List TurnTable.Entry :=
      [.restriction a, .cost b 7, .cost a 15, .restriction b]
    let costs := TurnCosts.table (.build entries) (some 40)
    ofTable (.build entries) (some 40) = .ok costs ∧ TurnTable.Rearranged entries entries' ∧
      costs.weight a = pure 15 ∧ costs.weight b = pure restrictedWeight ∧
      costs.weight ⟨1, 2, 1⟩ = pure 40 ∧
      TurnTable.Indistinguishable (.build entries) (.build entries') := by
  intro a b entries entries' costs
  have hu : ∀ w ∈ some (40 : Float), RoutingCosts.isCharge w = true := by decide
  have hmade : ofTable (.build entries) (some 40) = .ok costs := ofTable_eq_ok_iff.2 ⟨hu, rfl⟩
  have hrefused : (TurnTable.Entry.cost a (-1)).IsRefused := .inr (.inr (by decide))
  have hturn : a ≠ b := by decide
  have hrearranged : TurnTable.Rearranged entries entries' :=
    (TurnTable.Rearranged.refused hrefused [.restriction a, .cost a 15]
      [.cost b 7, .restriction b]).symm.trans
      (.swap (e := .cost a 15) (f := .cost b 7) hturn [.restriction a] [.restriction b])
  obtain ⟨_, hanswers, hsame⟩ := table_answers_by_last_entry entries (some 40) costs hmade
  exact ⟨hmade, hrearranged,
    (hanswers a).cost (by decide) (by decide) a 15 rfl,
    (hanswers b).restriction (by decide) (by decide) b rfl,
    (hanswers ⟨1, 2, 1⟩).turnBack (by decide) rfl, hsame entries' hrearranged⟩

end TurnCosts

end RoutingCosts
