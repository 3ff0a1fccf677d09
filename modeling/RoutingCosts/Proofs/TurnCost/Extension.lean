import Mathlib.Data.List.GetD
import Mathlib.Logic.ExistsUnique
import RoutingCosts.TurnCost.Basic

/-!
# What the base of an extended graph gets to know

The costs of turns of a base graph are carried over to its extension for a query. They are asked
about a turn only if it comes down to one of the base graph, and then about that turn, so no number
of a virtual edge or node ever reaches them.
-/

set_option autoImplicit false

namespace RoutingCosts

namespace QueryGraph

def ofSplits (nodes edges : UInt64) (splits : List EdgeId) : QueryGraph :=
  splits.foldl addVirtualEdge (.new nodes edges)

def numberAt (nodes edges : UInt64) (splits : List EdgeId) (k : Nat) : EdgeId :=
  (ofSplits nodes edges (splits.take k)).nextEdge

variable (nodes edges : UInt64) (splits : List EdgeId)

/-- A base edge stands for itself, a virtual edge for the one that it was split from. Numbers that
    are given out end before the one of no edge. -/
inductive StandsFor : EdgeId → EdgeId → Prop
  | base {e : EdgeId} (h : e < edges) : StandsFor e e
  | virtual {k : Nat} (h : k < splits.length) (fits : edges.toNat + k < invalidEdge.toNat) :
      StandsFor (numberAt nodes edges splits k) splits[k]

/-- No edge, or a virtual one whose number was never given out. -/
def IsUnknown (e : EdgeId) : Prop :=
  e = invalidEdge ∨ (edges ≤ e ∧ ∀ k < splits.length, e ≠ numberAt nodes edges splits k)

/-- What a turn of the extended graph comes down to. -/
inductive Means (turn : Turn) : Ruling → Prop
  | unknown (h : IsUnknown nodes edges splits turn.inEdge ∨
      IsUnknown nodes edges splits turn.outEdge) : Means turn .free
  | turnBack {e : EdgeId} (inEdge : StandsFor nodes edges splits turn.inEdge e)
      (outEdge : StandsFor nodes edges splits turn.outEdge e) (virtual : nodes ≤ turn.via) :
      Means turn .forbidden
  | passage {e f : EdgeId} (inEdge : StandsFor nodes edges splits turn.inEdge e)
      (outEdge : StandsFor nodes edges splits turn.outEdge f) (different : e ≠ f)
      (virtual : nodes ≤ turn.via) : Means turn .free
  | base {e f : EdgeId} (inEdge : StandsFor nodes edges splits turn.inEdge e)
      (outEdge : StandsFor nodes edges splits turn.outEdge f) (base : turn.via < nodes) :
      Means turn (.base ⟨e, turn.via, f⟩)

variable {nodes edges splits} {e f : EdgeId}

theorem foldl_addVirtualEdge (before : List EdgeId) :
    splits.foldl addVirtualEdge ⟨nodes, edges, before⟩ = ⟨nodes, edges, before ++ splits⟩ := by
  induction splits generalizing before with
  | nil => rw [List.foldl_nil, List.append_nil]
  | cons s splits ih =>
    rw [List.foldl_cons, addVirtualEdge, ih, List.append_assoc, List.singleton_append]

theorem ofSplits_eq : ofSplits nodes edges splits = ⟨nodes, edges, splits⟩ :=
  foldl_addVirtualEdge []

theorem numberAt_eq {k : Nat} (h : k ≤ splits.length) :
    numberAt nodes edges splits k = edges + k.toUInt64 := by
  rw [numberAt, ofSplits_eq, nextEdge, List.length_take_of_le h]

theorem toNat_numberAt {k : Nat} (h : k ≤ splits.length)
    (fits : edges.toNat + k < invalidEdge.toNat) :
    (numberAt nodes edges splits k).toNat = edges.toNat + k := by
  have hinvalid : invalidEdge.toNat = 2 ^ 64 - 1 := rfl
  have hk : k.toUInt64.toNat = k % 2 ^ 64 := rfl
  rw [numberAt_eq h, UInt64.toNat_add, hk]
  omega

theorem toNat_lt_invalidEdge (h : e ≠ invalidEdge) : e.toNat < invalidEdge.toNat := by
  have hinvalid : invalidEdge.toNat = 2 ^ 64 - 1 := rfl
  have hne : e.toNat ≠ invalidEdge.toNat := mt UInt64.toNat_inj.1 h
  have hlt := e.toNat_lt
  omega

theorem exists_numberAt_iff :
    (∃ k < splits.length, e = numberAt nodes edges splits k) ↔
      (e - edges).toNat < splits.length := by
  constructor
  · rintro ⟨k, hk, he⟩
    rw [numberAt_eq (Nat.le_of_lt hk)] at he
    have hsub : e - edges = k.toUInt64 := by grind
    rw [hsub]
    exact Nat.lt_of_le_of_lt (Nat.mod_le k _) hk
  · intro hk
    refine ⟨_, hk, ?_⟩
    rw [numberAt_eq (Nat.le_of_lt hk)]
    have hword : (e - edges).toNat.toUInt64 = e - edges := UInt64.ofNat_toNat
    grind

theorem isUnknown_iff :
    IsUnknown nodes edges splits e ↔
      e = invalidEdge ∨ (edges ≤ e ∧ splits.length ≤ (e - edges).toNat) := by
  rw [IsUnknown, ← Nat.not_lt, ← @exists_numberAt_iff nodes]
  simp

theorem exists_standsFor (h : ¬ IsUnknown nodes edges splits e) :
    ∃ f, StandsFor nodes edges splits e f := by
  obtain ⟨hvalid, hgiven⟩ := not_or.1 h
  by_cases he : edges ≤ e
  · -- the place is the least one with this number, so its number fits
    have hk : (e - edges).toNat < splits.length := by
      rw [isUnknown_iff] at h
      exact Nat.not_le.1 fun hk => h (.inr ⟨he, hk⟩)
    have hsub := UInt64.toNat_sub_of_le e edges he
    have hle := UInt64.le_iff_toNat_le.1 he
    have hlt := toNat_lt_invalidEdge hvalid
    have hnumber : numberAt nodes edges splits (e - edges).toNat = e := by
      apply UInt64.toNat_inj.1
      rw [toNat_numberAt (Nat.le_of_lt hk) (by omega)]
      omega
    have hstands : StandsFor nodes edges splits _ _ := .virtual hk (by omega)
    rw [hnumber] at hstands
    exact ⟨_, hstands⟩
  · exact ⟨e, .base (UInt64.not_le.1 he)⟩

theorem StandsFor.not_isUnknown (h : StandsFor nodes edges splits e f) :
    ¬ IsUnknown nodes edges splits e := by
  have hinvalid : invalidEdge.toNat = 2 ^ 64 - 1 := rfl
  cases h with
  | base h =>
    have hlt := UInt64.lt_iff_toNat_lt.1 h
    have hedges := edges.toNat_lt
    rintro (rfl | ⟨hle, -⟩)
    · omega
    · exact UInt64.not_lt.2 hle h
  | @virtual k hk fits =>
    rintro (hno | ⟨-, hnever⟩)
    · have hnumber : (numberAt nodes edges splits k).toNat = edges.toNat + k :=
        toNat_numberAt (Nat.le_of_lt hk) fits
      rw [hno] at hnumber
      omega
    · exact hnever k hk rfl

theorem StandsFor.baseEdge_eq (h : StandsFor nodes edges splits e f) :
    (ofSplits nodes edges splits).baseEdge e = f := by
  rw [ofSplits_eq, baseEdge, isVirtualEdge]
  cases h with
  | base h => rw [if_neg (by simpa using h)]
  | @virtual k hk fits =>
    have hnumber : (numberAt nodes edges splits k).toNat = edges.toNat + k :=
      toNat_numberAt (Nat.le_of_lt hk) fits
    have hle : edges ≤ numberAt nodes edges splits k := UInt64.le_iff_toNat_le.2 (by omega)
    have hplace : (numberAt nodes edges splits k - edges).toNat = k := by
      rw [UInt64.toNat_sub_of_le _ _ hle]
      omega
    rw [if_pos (decide_eq_true hle), hplace, List.getD_eq_getElem _ _ hk]

theorem baseEdge_of_never_given (hle : edges ≤ e)
    (hnever : ∀ k < splits.length, e ≠ numberAt nodes edges splits k) :
    (ofSplits nodes edges splits).baseEdge e = invalidEdge := by
  have hlength : splits.length ≤ (e - edges).toNat := by
    rw [← Nat.not_lt, ← @exists_numberAt_iff nodes]
    rintro ⟨k, hk, he⟩
    exact hnever k hk he
  rw [ofSplits_eq, baseEdge, isVirtualEdge, if_pos (decide_eq_true hle),
    List.getD_eq_default _ _ hlength]

theorem baseEdge_of_isUnknown (h : IsUnknown nodes edges splits e) (hvalid : e ≠ invalidEdge) :
    (ofSplits nodes edges splits).baseEdge e = invalidEdge := by
  obtain ⟨hle, hnever⟩ := h.resolve_left hvalid
  exact baseEdge_of_never_given hle hnever

theorem StandsFor.lt (hsplits : ∀ s ∈ splits, s < edges) (h : StandsFor nodes edges splits e f) :
    f < edges := by
  cases h with
  | base h => exact h
  | virtual h fits => exact hsplits _ (List.getElem_mem h)

section Ruling

variable {turn : Turn} {r : Ruling}

theorem ruling_of_isUnknown
    (h : IsUnknown nodes edges splits turn.inEdge ∨ IsUnknown nodes edges splits turn.outEdge) :
    (ofSplits nodes edges splits).ruling turn = .free := by
  rw [ruling]
  by_cases hvalid : turn.inEdge = invalidEdge ∨ turn.outEdge = invalidEdge
  · rw [if_pos hvalid]
  · obtain ⟨hin, hout⟩ := not_or.1 hvalid
    rw [if_neg hvalid]
    exact if_pos (h.imp (baseEdge_of_isUnknown · hin) (baseEdge_of_isUnknown · hout))

theorem ruling_of_standsFor (hsplits : ∀ s ∈ splits, s < edges)
    (hin : StandsFor nodes edges splits turn.inEdge e)
    (hout : StandsFor nodes edges splits turn.outEdge f) :
    (ofSplits nodes edges splits).ruling turn =
      if nodes ≤ turn.via then if e = f then .forbidden else .free
      else .base ⟨e, turn.via, f⟩ := by
  have hne {g : EdgeId} (h : g < edges) : g ≠ invalidEdge := by
    have hself : StandsFor nodes edges splits g g := .base h
    exact fun hg => hself.not_isUnknown (.inl hg)
  have hvalid : ¬ (turn.inEdge = invalidEdge ∨ turn.outEdge = invalidEdge) :=
    not_or.2 ⟨fun h => hin.not_isUnknown (.inl h), fun h => hout.not_isUnknown (.inl h)⟩
  have hbase : ¬ (e = invalidEdge ∨ f = invalidEdge) :=
    not_or.2 ⟨hne (hin.lt hsplits), hne (hout.lt hsplits)⟩
  have hnode :
      (ofSplits nodes edges splits).isVirtualNode turn.via = decide (nodes ≤ turn.via) := by
    rw [ofSplits_eq]
    rfl
  simp only [ruling, if_neg hvalid, hin.baseEdge_eq, hout.baseEdge_eq, if_neg hbase, hnode,
    decide_eq_true_eq]

theorem Means.ruling_eq (hsplits : ∀ s ∈ splits, s < edges)
    (h : Means nodes edges splits turn r) : (ofSplits nodes edges splits).ruling turn = r := by
  cases h with
  | unknown h => exact ruling_of_isUnknown h
  | turnBack hin hout hvirtual =>
    rw [ruling_of_standsFor hsplits hin hout, if_pos hvirtual, if_pos rfl]
  | passage hin hout hne hvirtual =>
    rw [ruling_of_standsFor hsplits hin hout, if_pos hvirtual, if_neg hne]
  | base hin hout hbase =>
    rw [ruling_of_standsFor hsplits hin hout, if_neg (UInt64.not_le.2 hbase)]

theorem exists_means (nodes edges : UInt64) (splits : List EdgeId) (turn : Turn) :
    ∃ r, Means nodes edges splits turn r := by
  by_cases h : IsUnknown nodes edges splits turn.inEdge ∨ IsUnknown nodes edges splits turn.outEdge
  · exact ⟨_, .unknown h⟩
  · obtain ⟨hin, hout⟩ := not_or.1 h
    obtain ⟨e, hin⟩ := exists_standsFor hin
    obtain ⟨f, hout⟩ := exists_standsFor hout
    by_cases hvirtual : nodes ≤ turn.via
    · by_cases hef : e = f
      · exact ⟨_, .turnBack hin (hef ▸ hout) hvirtual⟩
      · exact ⟨_, .passage hin hout hef hvirtual⟩
    · exact ⟨_, .base hin hout (UInt64.not_le.1 hvirtual)⟩

theorem existsUnique_means (hsplits : ∀ s ∈ splits, s < edges) (turn : Turn) :
    ∃! r, Means nodes edges splits turn r := by
  obtain ⟨r, hr⟩ := exists_means nodes edges splits turn
  exact ⟨r, hr, fun r' hr' => (hr'.ruling_eq hsplits).symm.trans (hr.ruling_eq hsplits)⟩

theorem Means.lt (hsplits : ∀ s ∈ splits, s < edges) {turn' : Turn}
    (h : Means nodes edges splits turn (.base turn')) :
    turn'.inEdge < edges ∧ turn'.via < nodes ∧ turn'.outEdge < edges := by
  cases h with
  | base hin hout hbase => exact ⟨hin.lt hsplits, hbase, hout.lt hsplits⟩

end Ruling

end QueryGraph

/-- The questions about a quantity that a ruling leads to, if the turn of the base graph is asked of
    one source. -/
def Ruling.questions (source : Nat) (quantity : Quantity) : Ruling → List Question
  | .free => []
  | .forbidden => []
  | .base turn => [⟨source, quantity, turn⟩]

namespace TurnCosts

/-- The same answers from a source of their own, so that every question to it is noted. -/
def noted (costs : TurnCosts) (source : Nat) : TurnCosts :=
  .outside ⟨source, fun turn => (costs.weight turn).value, fun turn => (costs.time turn).value⟩

/-- The weight and the time of a turn, by what it comes down to. -/
inductive AnswersBy (costs : TurnCosts) : Ruling → Traced Float → Traced UInt64 → Prop
  | free : AnswersBy costs .free (pure 0) (pure 0)
  | forbidden : AnswersBy costs .forbidden (pure restrictedWeight) (pure restrictedTime)
  | base (turn : Turn) : AnswersBy costs (.base turn) (costs.weight turn) (costs.time turn)

/-- An extension answers a turn by the ruling, and asks its base nothing beyond it. -/
structure Isolates (costs : TurnCosts) (g : QueryGraph) (turn : Turn) (r : Ruling) : Prop where
  answers : costs.AnswersBy r ((extended costs g).weight turn) ((extended costs g).time turn)
  weightQuestions : ∀ source,
    ((extended (costs.noted source) g).weight turn).asked = r.questions source .weight
  timeQuestions : ∀ source,
    ((extended (costs.noted source) g).time turn).asked = r.questions source .time

theorem isolates_ruling (costs : TurnCosts) (g : QueryGraph) (turn : Turn) :
    costs.Isolates g turn (g.ruling turn) := by
  cases hr : g.ruling turn with
  | free =>
    refine ⟨?_, fun source => ?_, fun source => ?_⟩ <;> simp only [weight, time, hr]
    · exact .free
    · rfl
    · rfl
  | forbidden =>
    refine ⟨?_, fun source => ?_, fun source => ?_⟩ <;> simp only [weight, time, hr]
    · exact .forbidden
    · rfl
    · rfl
  | base turn' =>
    refine ⟨?_, fun source => ?_, fun source => ?_⟩ <;> simp only [weight, time, hr]
    · exact .base turn'
    · rfl
    · rfl

/-- Over virtual edges that were split from base edges, every turn comes down to exactly one ruling.
    The base, which may be an extension itself, is asked once about a turn of the base graph and
    never about anything else. -/
theorem extension_isolates_base (costs : TurnCosts) (nodes edges : UInt64) (splits : List EdgeId)
    (hsplits : ∀ s ∈ splits, s < edges) (turn : Turn) :
    (∃! r, QueryGraph.Means nodes edges splits turn r) ∧
      (∀ r, QueryGraph.Means nodes edges splits turn r →
        costs.Isolates (.ofSplits nodes edges splits) turn r) ∧
      ∀ turn', QueryGraph.Means nodes edges splits turn (.base turn') →
        turn'.inEdge < edges ∧ turn'.via < nodes ∧ turn'.outEdge < edges :=
  ⟨QueryGraph.existsUnique_means hsplits turn,
    fun _ h => h.ruling_eq hsplits ▸ costs.isolates_ruling _ turn, fun _ h => h.lt hsplits⟩

theorem extension_isolates_base_of_nested_extension :
    let base := TurnCosts.extended (.outside ⟨7, fun _ => 2, fun _ => 2000⟩) (.ofSplits 3 2 [1])
    let splits : List EdgeId := [0, 1]
    let turn : Turn := ⟨3, 2, 2⟩
    let unknown : Turn := ⟨3, 2, 4⟩
    (∀ s ∈ splits, s < 2) ∧
      QueryGraph.Means 3 2 splits turn (.base ⟨1, 2, 0⟩) ∧
      base.Isolates (.ofSplits 3 2 splits) turn (.base ⟨1, 2, 0⟩) ∧
      QueryGraph.Means 3 2 splits unknown .free ∧
      base.Isolates (.ofSplits 3 2 splits) unknown .free := by
  intro base splits turn unknown
  have hsplits : ∀ s ∈ splits, s < 2 := by simp [splits]
  have hin : QueryGraph.StandsFor 3 2 splits turn.inEdge 1 :=
    .virtual (k := 1) (by decide) (by decide)
  have hout : QueryGraph.StandsFor 3 2 splits turn.outEdge 0 :=
    .virtual (k := 0) (by decide) (by decide)
  have hmeans : QueryGraph.Means 3 2 splits turn (.base ⟨1, 2, 0⟩) := .base hin hout (by decide)
  have hunknown : QueryGraph.Means 3 2 splits unknown .free :=
    .unknown (.inr (.inr ⟨by decide, by decide⟩))
  exact ⟨hsplits, hmeans, (extension_isolates_base base 3 2 splits hsplits turn).2.1 _ hmeans,
    hunknown, (extension_isolates_base base 3 2 splits hsplits unknown).2.1 _ hunknown⟩

end TurnCosts

end RoutingCosts
