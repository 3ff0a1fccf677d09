import RoutingCosts.Proofs.Weighting.Canonical
import RoutingCosts.Proofs.Weighting.Constructible
import RoutingCosts.Proofs.Weighting.Layers
import RoutingCosts.Proofs.Weighting.SharedKey

set_option autoImplicit false

namespace RoutingCosts

namespace CostModel

theorem eq_name_of_ofName? {name : String} {model : CostModel} (h : ofName? name = some model) :
    name = model.name := by
  unfold ofName? at h
  split at h
  · cases h
    assumption
  · split at h
    · cases h
      assumption
    · cases h

theorem bars_key (model : CostModel) (vehicle : String) : Key.bars ⟨model.name, vehicle⟩ = 0 := by
  change model.name.toList.count '|' = 0
  cases model <;> decide

theorem name_ne_empty (model : CostModel) : model.name ≠ "" := by
  cases model <;> decide

end CostModel

theorem PlainWeighting.sameAs_iff {w x : PlainWeighting} :
    w.sameAs x = true ↔ w.model = x.model ∧ w.basis.key = x.basis.key := by
  simp [sameAs]

namespace Profile

/-- However two weightings are compared that the profiles `p` and `q` make, the answer is the same,
    and it says whether they agree on edges. -/
structure IdentitiesAgree (p q : Profile) (w x : PlainWeighting) : Prop where
  sameAs : w.sameAs x = true ↔ w.basis.key = x.basis.key
  canonical : w.basis.key.canonical = x.basis.key.canonical ↔ w.basis.key = x.basis.key
  parts : w.model = x.model ∧ w.basis.vehicle.name = x.basis.vehicle.name ↔
    w.basis.key = x.basis.key
  profiles : p.weighting = q.weighting ∧ p.vehicle = q.vehicle ↔ w.basis.key = x.basis.key
  edges : w.basis.key = x.basis.key → Weighting.SameEdges (.plain w) (.plain x)

theorem identities_agree (registry : Registry) (table table' : TurnTable) (p q : Profile)
    (w x : PlainWeighting) (hp : p.plainWeighting registry table = .ok w)
    (hq : q.plainWeighting registry table' = .ok x) : IdentitiesAgree p q w x := by
  have hedges (hk : w.basis.key = x.basis.key) : Weighting.SameEdges (.plain w) (.plain x) := by
    obtain ⟨model, v, rfl, rfl⟩ := exists_of_shared_key hp hq hk
    exact Weighting.sameEdges_of_turnCosts model v _ _
  obtain ⟨model, v, hmodel, hv, rfl⟩ := exists_of_plainWeighting hp
  obtain ⟨model', v', hmodel', hv', rfl⟩ := exists_of_plainWeighting hq
  have hparts : model = model' ∧ v.name = v'.name ↔
      (⟨model.name, v.name⟩ : Key) = ⟨model'.name, v'.name⟩ := by
    rw [Key.mk.injEq]
    exact and_congr_left fun _ => ⟨congrArg CostModel.name, CostModel.name_injective⟩
  refine ⟨?_, ?_, hparts, ?_, hedges⟩
  · rw [PlainWeighting.sameAs_iff]
    exact ⟨fun h => h.2, fun h => ⟨(hparts.2 h).1, h⟩⟩
  · have hbars : Key.bars ⟨model.name, v.name⟩ = Key.bars ⟨model'.name, v'.name⟩ := by
      rw [CostModel.bars_key, CostModel.bars_key]
    exact ⟨Key.eq_of_canonical_eq hbars, congrArg Key.canonical⟩
  · rw [CostModel.eq_name_of_ofName? hmodel, CostModel.eq_name_of_ofName? hmodel',
      ← Registry.name_of_vehicle hv, ← Registry.name_of_vehicle hv', Key.mk.injEq]

theorem identities_agree_of_barred_vehicle :
    let registry : Registry := ⟨[⟨"car", ⟨120⟩, true⟩, ⟨"car|trailer", ⟨80⟩, true⟩]⟩
    let table : TurnTable := .build [.restriction ⟨1, 2, 3⟩]
    let p : Profile := ⟨"day", "car|trailer", "shortest", true, some 40⟩
    let q : Profile := ⟨"night", "car|trailer", "shortest", false, none⟩
    let v : Vehicle := ⟨"car|trailer", ⟨80⟩, true⟩
    let w : PlainWeighting := ⟨.shortest, ⟨⟨"shortest", "car|trailer"⟩, v, .table table (some 40)⟩⟩
    let x : PlainWeighting := ⟨.shortest, ⟨⟨"shortest", "car|trailer"⟩, v, .free⟩⟩
    p.plainWeighting registry table = .ok w ∧ q.plainWeighting registry .empty = .ok x ∧
      w.sameAs x = true ∧ Weighting.SameEdges (.plain w) (.plain x) := by
  intro registry table p q v w x
  have hcosts : TurnCosts.ofTable table (some 40) = .ok (.table table (some 40)) :=
    TurnCosts.ofTable_eq_ok_iff.2 ⟨by decide, rfl⟩
  have hp : p.plainWeighting registry table = .ok w :=
    plainWeighting_eq_ok_iff.2 ⟨v, _, .shortest, rfl, hcosts, rfl, rfl⟩
  have hq : q.plainWeighting registry .empty = .ok x := rfl
  have h := identities_agree registry table .empty p q w x hp hq
  exact ⟨hp, hq, h.sameAs.2 rfl, h.edges rfl⟩

end Profile

section Requests

theorem Hints.accepts_iff {wanted actual : String} :
    accepts wanted actual = true ↔ wanted = "" ∨ wanted = actual := by
  simp [accepts]

theorem Hints.matchesKey_iff {h : Hints} {k : Key} :
    h.matchesKey k = true ↔
      (h.weighting = "" ∨ h.weighting = k.name) ∧ (h.vehicle = "" ∨ h.vehicle = k.vehicle) := by
  rw [matchesKey, Bool.and_eq_true, accepts_iff, accepts_iff]

end Requests

namespace Weighting

theorem matchesHints_eq (w : Weighting) (h : Hints) : w.matchesHints h = h.matchesKey w.key := by
  induction w with
  | plain w => rfl
  | query inner costs ih => exact ih

theorem matchesHints_key_iff {w : Weighting} (hw : w.Constructible) (x : Weighting) :
    x.matchesHints ⟨w.key.name, w.key.vehicle⟩ = true ↔
      w.key.name = x.key.name ∧ (w.key.vehicle = "" ∨ w.key.vehicle = x.key.vehicle) := by
  obtain ⟨model, hname⟩ := hw.exists_name
  have hne : w.key.name ≠ "" := hname ▸ model.name_ne_empty
  rw [matchesHints_eq, Hints.matchesKey_iff, or_iff_right hne]

/-- A request that names the cost model and the vehicle of a weighting selects the weightings with
    its key. Only where the vehicle has an empty name it selects those of every vehicle with the
    cost model. -/
theorem named_request_selects (w x : Weighting) (hw : w.Constructible) :
    (w.key.vehicle ≠ "" →
        (x.matchesHints ⟨w.key.name, w.key.vehicle⟩ = true ↔ w.key = x.key)) ∧
      (w.key.vehicle = "" →
        (x.matchesHints ⟨w.key.name, w.key.vehicle⟩ = true ↔ w.key.name = x.key.name)) := by
  rw [matchesHints_key_iff hw]
  constructor
  · intro hvehicle
    rw [or_iff_right hvehicle, Key.eq_iff]
  · intro hvehicle
    exact and_iff_left (.inl hvehicle)

theorem named_request_selects_of_nameless_vehicle :
    let car : Vehicle := ⟨"car", ⟨120⟩, true⟩
    let nameless : Vehicle := ⟨"", ⟨5⟩, true⟩
    let w := Weighting.query (.plain ⟨.fastest, ⟨⟨"fastest", "car"⟩, car, .free⟩⟩) .free
    let x := Weighting.plain ⟨.fastest, ⟨⟨"fastest", ""⟩, nameless, .table .empty none⟩⟩
    w.Constructible ∧ x.Constructible ∧ w.key ≠ x.key ∧
      w.matchesHints ⟨w.key.name, w.key.vehicle⟩ = true ∧
      x.matchesHints ⟨w.key.name, w.key.vehicle⟩ = false ∧
      w.matchesHints ⟨x.key.name, x.key.vehicle⟩ = true := by
  intro car nameless w x
  have hcar : car.Constructible := (Vehicle.constructible_iff rfl).2 (by decide)
  have hnameless : nameless.Constructible := (Vehicle.constructible_iff rfl).2 (by decide)
  have hw : w.Constructible := .query (.plain hcar (PlainWeighting.new_eq_ok_iff.2 ⟨rfl, rfl⟩)) _
  have hx : x.Constructible := .plain hnameless (PlainWeighting.new_eq_ok_iff.2 ⟨rfl, rfl⟩)
  have hdifferent : w.key ≠ x.key := by decide
  have hnamed : w.key.vehicle ≠ "" := by decide
  refine ⟨hw, hx, hdifferent, ((named_request_selects w w hw).1 hnamed).2 rfl, ?_,
    ((named_request_selects x w hx).2 rfl).2 rfl⟩
  rw [Bool.eq_false_iff]
  exact mt ((named_request_selects w x hw).1 hnamed).1 hdifferent

/-- A request for the weighting of a vehicle without a name selects other weightings as well. -/
theorem request_of_nameless_vehicle_selects_others :
    ¬ ∀ w x : Weighting, w.Constructible → x.Constructible →
      (x.matchesHints ⟨w.key.name, w.key.vehicle⟩ = true ↔ w.key = x.key) := by
  intro h
  let nameless : Vehicle := ⟨"", ⟨5⟩, true⟩
  let car : Vehicle := ⟨"car", ⟨120⟩, true⟩
  have hnameless : nameless.Constructible := (Vehicle.constructible_iff rfl).2 (by decide)
  have hcar : car.Constructible := (Vehicle.constructible_iff rfl).2 (by decide)
  have hiff := h (.plain ⟨.fastest, ⟨⟨"fastest", ""⟩, nameless, .free⟩⟩)
    (.plain ⟨.fastest, ⟨⟨"fastest", "car"⟩, car, .free⟩⟩)
    (.plain hnameless (PlainWeighting.new_eq_ok_iff.2 ⟨rfl, rfl⟩))
    (.plain hcar (PlainWeighting.new_eq_ok_iff.2 ⟨rfl, rfl⟩))
  exact absurd (hiff.1 (by decide)) (by decide)

end Weighting

end RoutingCosts
