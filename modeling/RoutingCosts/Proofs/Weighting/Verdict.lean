import RoutingCosts.Proofs.Number.Words
import RoutingCosts.Proofs.Weighting.Layers
import RoutingCosts.Proofs.Weighting.OwnProperties

/-!
# Weight and time judge an edge alike

An edge may be closed to a vehicle, its speed may be of no use or zero, or the vehicle can pass it.
The time of an edge tests its speed in other steps than its weight does, but both come to the same
verdict: a search passes over exactly those edges that have a time, and a failure tells why an edge
has none.
-/

set_option autoImplicit false

open Float.Model
open Float.Model.UnpackedFloat hiding round

namespace RoutingCosts

inductive Verdict where
  | closed
  | badSpeed
  | zeroSpeed
  | passable
deriving DecidableEq

namespace Verdict

def ofSpeed (s : Float) : Verdict :=
  match s.toModel.unpack with
  | .notANumber => .badSpeed
  | .infinity _ => .badSpeed
  | .zero _ => .zeroSpeed
  | .finite .negative _ _ _ => .badSpeed
  | .finite .positive _ _ _ => .passable

variable {s : Float}

theorem unpack_zero : (0 : Float).toModel.unpack = .zero .positive := rfl

theorem unpack_negative_zero : (-0.0 : Float).toModel.unpack = .zero .negative := rfl

theorem eq_zero_iff : (s = 0 ∨ s = -0.0) ↔ ∃ sign, s.toModel.unpack = .zero sign := by
  constructor
  · rintro (rfl | rfl)
    · exact ⟨_, unpack_zero⟩
    · exact ⟨_, unpack_negative_zero⟩
  · rintro ⟨sign, h⟩
    have hs := pack_unpack_toModel s
    rw [h] at hs
    cases sign with
    | positive => exact .inl hs.symm
    | negative => exact .inr hs.symm

theorem ofSpeed_ne_closed : ofSpeed s ≠ .closed := by
  unfold ofSpeed
  split <;> decide

theorem ofSpeed_eq_badSpeed_iff :
    ofSpeed s = .badSpeed ↔ s.isNaN = true ∨ s.isInf = true ∨ s < 0 := by
  rw [isNaN_eq_unpack, isInf_eq_unpack, lt_iff_unpack, unpack_zero, ofSpeed]
  cases s.toModel.unpack with
  | notANumber => decide
  | infinity sign => cases sign <;> decide
  | zero sign => cases sign <;> decide
  | finite sign m e hm =>
    cases sign with
    | negative => exact iff_of_true rfl (.inr (.inr rfl))
    | positive => exact iff_of_false nofun (by rintro (h | h | h) <;> cases h)

theorem ofSpeed_eq_zeroSpeed_iff : ofSpeed s = .zeroSpeed ↔ s = 0 ∨ s = -0.0 := by
  rw [eq_zero_iff, ofSpeed]
  cases s.toModel.unpack with
  | notANumber => simp
  | infinity sign => simp
  | zero sign => simp
  | finite sign m e hm => cases sign <;> simp

theorem ofSpeed_eq_passable_iff : ofSpeed s = .passable ↔ s.isFinite = true ∧ 0 < s := by
  rw [isFinite_eq_unpack, lt_iff_unpack, unpack_zero, ofSpeed]
  cases s.toModel.unpack with
  | notANumber => decide
  | infinity sign => cases sign <;> decide
  | zero sign => cases sign <;> decide
  | finite sign m e hm =>
    cases sign with
    | negative => exact iff_of_false nofun (by rintro ⟨-, h⟩; cases h)
    | positive => exact iff_of_true rfl ⟨rfl, rfl⟩

theorem isBad_iff : (!s.isFinite || decide (s < 0)) = true ↔ ofSpeed s = .badSpeed := by
  rw [ofSpeed_eq_badSpeed_iff, isFinite_eq_not, Bool.not_not, Bool.or_eq_true, Bool.or_eq_true,
    decide_eq_true_iff, or_assoc]

theorem isZero_iff : (s == 0) = true ↔ ofSpeed s = .zeroSpeed := by
  change s.toModel.unpack.beq (.zero .positive) = true ↔ _
  rw [ofSpeed]
  cases s.toModel.unpack with
  | notANumber => decide
  | infinity sign => cases sign <;> decide
  | zero sign => cases sign <;> decide
  | finite sign m e hm => cases sign <;> exact iff_of_false nofun nofun

theorem isImpassable_iff :
    (!s.isFinite || decide (s ≤ 0)) = true ↔ ofSpeed s ≠ .passable := by
  rw [Ne, ofSpeed_eq_passable_iff, Bool.or_eq_true, decide_eq_true_iff, not_and_or,
    Bool.not_eq_true', Bool.not_eq_true]
  refine or_congr_right' fun hfinite => ?_
  -- a finite speed is defined, so it is below zero, zero or above
  have hdefined : s.isNaN = false :=
    isNaN_eq_false_of_isFinite (Bool.not_eq_false _ ▸ hfinite)
  rw [lt_iff_not_le rfl hdefined, not_not]

end Verdict

namespace Vehicle

variable {v : Vehicle} {e : EdgeView} {d : Direction} {x : Verdict}

def Finds (v : Vehicle) (e : EdgeView) (d : Direction) : Verdict → Prop
  | .closed => v.mayTravel e d = false
  | .badSpeed => v.mayTravel e d = true ∧
      ((v.speedOn e d).isNaN = true ∨ (v.speedOn e d).isInf = true ∨ v.speedOn e d < 0)
  | .zeroSpeed => v.mayTravel e d = true ∧ (v.speedOn e d = 0 ∨ v.speedOn e d = -0.0)
  | .passable => v.mayTravel e d = true ∧ (v.speedOn e d).isFinite = true ∧ 0 < v.speedOn e d

def verdict (v : Vehicle) (e : EdgeView) (d : Direction) : Verdict :=
  if v.mayTravel e d then .ofSpeed (v.speedOn e d) else .closed

theorem finds_iff : v.Finds e d x ↔ x = v.verdict e d := by
  rw [Vehicle.verdict]
  cases h : v.mayTravel e d with
  | false => cases x <;> simp [Finds, h]
  | true =>
    rw [if_pos rfl, eq_comm]
    cases x with
    | closed => simp [Finds, h, Verdict.ofSpeed_ne_closed]
    | badSpeed => simp [Finds, h, Verdict.ofSpeed_eq_badSpeed_iff]
    | zeroSpeed => simp [Finds, h, Verdict.ofSpeed_eq_zeroSpeed_iff]
    | passable => simp [Finds, h, Verdict.ofSpeed_eq_passable_iff]

theorem existsUnique_finds (v : Vehicle) (e : EdgeView) (d : Direction) :
    ∃! x, v.Finds e d x :=
  ⟨v.verdict e d, finds_iff.2 rfl, fun _ h => finds_iff.1 h⟩

/-- The time of an edge, its weight for the fastest way and its weight for the shortest way, by
    what the vehicle finds on it. -/
inductive Answers (v : Vehicle) (e : EdgeView) (d : Direction) :
    Verdict → Except CostError UInt64 → Float → Float → Prop
  | closed : Answers v e d .closed (.error (.wrongDirection (v.closedDirection e d)))
      infiniteWeight infiniteWeight
  | badSpeed : Answers v e d .badSpeed (.error (.invalidSpeed e.id d (v.speedOn e d)))
      infiniteWeight e.distance.value
  | zeroSpeed : Answers v e d .zeroSpeed (.error (.zeroSpeed e.id d))
      infiniteWeight e.distance.value
  | passable {time : UInt64}
      (nearest : IsNearestWord (e.distance.value * 3600.0 / v.speedOn e d) time) :
      Answers v e d .passable (.ok time) (e.distance.value * 3.6 / v.speedOn e d) e.distance.value

def timeBy (v : Vehicle) (e : EdgeView) (d : Direction) : Verdict → Except CostError UInt64
  | .closed => .error (.wrongDirection (v.closedDirection e d))
  | .badSpeed => .error (.invalidSpeed e.id d (v.speedOn e d))
  | .zeroSpeed => .error (.zeroSpeed e.id d)
  | .passable => .ok (roundToWord (e.distance.milliseconds ⟨v.speedOn e d⟩))

theorem edgeTime_eq_timeBy (v : Vehicle) (e : EdgeView) (d : Direction) :
    v.edgeTime e d = v.timeBy e (e.effective d) (v.verdict e (e.effective d)) := by
  simp only [edgeTime, Vehicle.verdict]
  cases v.mayTravel e (e.effective d) with
  | false => rfl
  | true =>
    simp only [Bool.not_true, Bool.false_eq_true, if_false, if_true, Verdict.isBad_iff,
      Verdict.isZero_iff]
    cases h : Verdict.ofSpeed (v.speedOn e (e.effective d)) with
    | closed => exact absurd h Verdict.ofSpeed_ne_closed
    | badSpeed => rfl
    | zeroSpeed => rfl
    | passable => rfl

end Vehicle

namespace CostModel

/-- The weight of an edge by the verdict on it. Only the fastest way depends on the speed. -/
def weightBy (model : CostModel) (v : Vehicle) (e : EdgeView) (d : Direction) : Verdict → Float
  | .closed => infiniteWeight
  | .passable =>
    match model with
    | .fastest => e.distance.seconds ⟨v.speedOn e d⟩
    | .shortest => e.distance.value
  | _ =>
    match model with
    | .fastest => infiniteWeight
    | .shortest => e.distance.value

theorem edgeWeight_eq_weightBy (model : CostModel) (v : Vehicle) (e : EdgeView) (d : Direction) :
    model.edgeWeight v e d = model.weightBy v e (e.effective d) (v.verdict e (e.effective d)) := by
  simp only [edgeWeight, Vehicle.verdict]
  cases v.mayTravel e (e.effective d) with
  | false => rfl
  | true =>
    simp only [Bool.not_true, Bool.false_eq_true, if_false, if_true, Verdict.isImpassable_iff]
    cases h : Verdict.ofSpeed (v.speedOn e (e.effective d)) with
    | closed => exact absurd h Verdict.ofSpeed_ne_closed
    | badSpeed => rfl
    | zeroSpeed => rfl
    | passable => rfl

end CostModel

theorem Vehicle.answers_verdict (v : Vehicle) (e : EdgeView) (d : Direction) :
    v.Answers e (e.effective d) (v.verdict e (e.effective d)) (v.edgeTime e d)
      (CostModel.fastest.edgeWeight v e d) (CostModel.shortest.edgeWeight v e d) := by
  rw [edgeTime_eq_timeBy, CostModel.edgeWeight_eq_weightBy, CostModel.edgeWeight_eq_weightBy]
  cases v.verdict e (e.effective d) with
  | closed => exact .closed
  | badSpeed => exact .badSpeed
  | zeroSpeed => exact .zeroSpeed
  | passable => exact .passable (isNearestWord_roundToWord _)

namespace Weighting

/-- Under any layers of turn costs, the fastest and the shortest weighting of a vehicle give an edge
    the same time. Exactly one verdict on the edge is right, and the time and both weights are as it
    says. -/
theorem edges_judged_alike (v : Vehicle) (hv : v.registered = true) (costs costs' : TurnCosts)
    (layers layers' : List TurnCosts) :
    ∃ f s : PlainWeighting,
      PlainWeighting.new .fastest v costs = .ok f ∧ PlainWeighting.new .shortest v costs' = .ok s ∧
      ∀ (e : EdgeView) (d : Direction),
        (layered (.plain f) layers).edgeTime e d = (layered (.plain s) layers').edgeTime e d ∧
        (∃! x, v.Finds e (e.effective d) x) ∧
        ∀ x, v.Finds e (e.effective d) x →
          v.Answers e (e.effective d) x ((layered (.plain f) layers).edgeTime e d)
            ((layered (.plain f) layers).edgeWeight e d)
            ((layered (.plain s) layers').edgeWeight e d) := by
  refine ⟨_, _, PlainWeighting.new_eq_ok_iff.2 ⟨hv, rfl⟩, PlainWeighting.new_eq_ok_iff.2 ⟨hv, rfl⟩,
    fun e d => ?_⟩
  have hfastest := sameEdges_layered
    (.plain ⟨.fastest, ⟨⟨CostModel.fastest.name, v.name⟩, v, costs⟩⟩) layers
  have hshortest := sameEdges_layered
    (.plain ⟨.shortest, ⟨⟨CostModel.shortest.name, v.name⟩, v, costs'⟩⟩) layers'
  rw [hfastest.edgeTime, hfastest.edgeWeight, hshortest.edgeTime, hshortest.edgeWeight]
  refine ⟨rfl, v.existsUnique_finds e _, fun x hx => ?_⟩
  rw [Vehicle.finds_iff.1 hx]
  exact v.answers_verdict e d

theorem loop_judged_alike_at_negative_zero :
    let car : Vehicle := ⟨"car", ⟨120⟩, true⟩
    let e : StoredEdge := ⟨3, 1, 1, ⟨1000⟩,
      (PropertyMap.empty.setFlag car.access .forward true).setNumber car.speed .forward (-0.0)⟩
    let loop := e.forward.view
    car.registered = true ∧
      ∃ f s : PlainWeighting,
        PlainWeighting.new .fastest car .free = .ok f ∧
        PlainWeighting.new .shortest car .free = .ok s ∧
        car.Answers loop .forward .zeroSpeed
          ((layered (.plain f) [.table .empty none]).edgeTime loop .backward)
          ((layered (.plain f) [.table .empty none]).edgeWeight loop .backward)
          ((layered (.plain s) []).edgeWeight loop .backward) := by
  intro car e loop
  obtain ⟨f, s, hf, hs, h⟩ :=
    edges_judged_alike car rfl .free .free [.table .empty none] []
  exact ⟨rfl, f, s, hf, hs, (h loop .backward).2.2 .zeroSpeed ⟨rfl, .inr rfl⟩⟩

end Weighting

end RoutingCosts
