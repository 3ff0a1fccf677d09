import RoutingCosts.Proofs.Graph.Writes
import RoutingCosts.Proofs.Hierarchy

set_option autoImplicit false

namespace RoutingCosts

/-- The vehicle finds no difference between two edges: they lie the same, and its access and its
    speed are the same, whatever else they store. -/
structure Vehicle.SeesSame (v : Vehicle) (e f : EdgeView) : Prop where
  id : e.id = f.id
  base : e.base = f.base
  adjacent : e.adjacent = f.adjacent
  firstCovered : e.firstCovered = f.firstCovered
  lastCovered : e.lastCovered = f.lastCovered
  distance : e.distance = f.distance
  mayTravel : ∀ d, v.mayTravel e d = v.mayTravel f d
  speedOn : ∀ d, v.speedOn e d = v.speedOn f d

namespace Vehicle.SeesSame

variable {v : Vehicle} {e f : EdgeView}

theorem effective (h : v.SeesSame e f) (d : Direction) : e.effective d = f.effective d := by
  rw [EdgeView.effective, EdgeView.effective, EdgeView.isLoop, EdgeView.isLoop, h.base, h.adjacent]

theorem closedDirection (h : v.SeesSame e f) (d : Direction) :
    v.closedDirection e d = v.closedDirection f d := by
  simp only [Vehicle.closedDirection, h.id, h.base, h.adjacent, h.distance, h.mayTravel, h.speedOn]

theorem modelWeight (h : v.SeesSame e f) (model : CostModel) (d : Direction) :
    model.edgeWeight v e d = model.edgeWeight v f d := by
  simp only [CostModel.edgeWeight, h.effective, h.mayTravel, h.speedOn, h.distance]

theorem vehicleTime (h : v.SeesSame e f) (d : Direction) : v.edgeTime e d = v.edgeTime f d := by
  simp only [Vehicle.edgeTime, h.effective, h.mayTravel, h.speedOn, h.distance, h.closedDirection,
    h.id]

theorem weightTurn? (h : v.SeesSame e f) (d : Direction) (adj : EdgeId) :
    e.weightTurn? d adj = f.weightTurn? d adj := by
  simp only [EdgeView.weightTurn?, EdgeView.turn?, h.firstCovered, h.lastCovered, h.base]

theorem timeTurn? (h : v.SeesSame e f) (d : Direction) (adj : EdgeId) :
    e.timeTurn? d adj = f.timeTurn? d adj := by
  simp only [EdgeView.timeTurn?, EdgeView.turn?, h.id, h.base]

end Vehicle.SeesSame

namespace Weighting

variable {w : Weighting} {e f : EdgeView}

theorem edgeWeight_congr (h : w.vehicle.SeesSame e f) (d : Direction) :
    w.edgeWeight e d = w.edgeWeight f d := by
  induction w with
  | plain w => exact h.modelWeight w.model d
  | query inner costs ih => exact ih h

theorem edgeTime_eq (w : Weighting) (e : EdgeView) (d : Direction) :
    w.edgeTime e d = w.vehicle.edgeTime e d := by
  induction w with
  | plain w => rfl
  | query inner costs ih => exact ih

theorem edgeTime_congr (h : w.vehicle.SeesSame e f) (d : Direction) :
    w.edgeTime e d = w.edgeTime f d := by
  rw [edgeTime_eq, edgeTime_eq, h.vehicleTime]

theorem sameOn_of_seesSame (h : w.vehicle.SeesSame e f) : w.SameOn e f where
  edgeWeight := edgeWeight_congr h
  weight d adj := by rw [weight_eq_charge, weight_eq_charge, edgeWeight_congr h, h.weightTurn?]
  edgeTime := edgeTime_congr h
  time d adj := by rw [time_eq_charge, time_eq_charge, edgeTime_congr h, h.timeTurn?]
  canAccess := by rw [canAccess, canAccess, edgeWeight_congr h, edgeWeight_congr h]

structure SameOnTraversals (w : Weighting) (t u : Traversal) : Prop where
  bare : w.SameOn t.view u.view
  held : w.SameOn (HierarchyEdge.edge t).view (HierarchyEdge.edge u).view

/-- No cost tells two stored edges apart, from whichever end they are read. -/
structure SameOnStored (w : Weighting) (e f : StoredEdge) : Prop where
  forward : w.SameOnTraversals e.forward f.forward
  backward : w.SameOnTraversals e.backward f.backward
  fromNode : ∀ n, Option.Rel w.SameOnTraversals (e.traverseFrom? n) (f.traverseFrom? n)

end Weighting

structure StoredEdge.AgreesFor (e f : StoredEdge) (v : Vehicle) : Prop where
  id : e.id = f.id
  startNode : e.startNode = f.startNode
  endNode : e.endNode = f.endNode
  distance : e.distance = f.distance
  access : ∀ d, (e.properties.flag? v.access d).getD false =
    (f.properties.flag? v.access d).getD false
  speed : ∀ d, (e.properties.number? v.speed d).getD 0 = (f.properties.number? v.speed d).getD 0

namespace StoredEdge.AgreesFor

variable {e f : StoredEdge} {v : Vehicle}

theorem seesSame (h : e.AgreesFor f v) (d : Direction) :
    v.SeesSame (e.read d).view (f.read d).view where
  id := h.id
  base := by cases d with | forward => exact h.startNode | backward => exact h.endNode
  adjacent := by cases d with | forward => exact h.endNode | backward => exact h.startNode
  firstCovered := h.id
  lastCovered := h.id
  distance := h.distance
  mayTravel d' := h.access ((e.read d).stored d')
  speedOn d' := h.speed ((e.read d).stored d')

theorem sameOnTraversals {w : Weighting} (h : e.AgreesFor f w.vehicle) (d : Direction) :
    w.SameOnTraversals (e.read d) (f.read d) where
  bare := Weighting.sameOn_of_seesSame (h.seesSame d)
  held := by
    rw [HierarchyEdge.view_edge, HierarchyEdge.view_edge]
    exact Weighting.sameOn_of_seesSame (h.seesSame d)

theorem sameOnStored {w : Weighting} (h : e.AgreesFor f w.vehicle) : w.SameOnStored e f where
  forward := h.sameOnTraversals .forward
  backward := h.sameOnTraversals .backward
  fromNode n := by
    unfold StoredEdge.traverseFrom?
    rw [h.startNode, h.endNode]
    split
    · exact .some (h.sameOnTraversals .forward)
    · split
      · exact .some (h.sameOnTraversals .backward)
      · exact .none

end StoredEdge.AgreesFor

/-- The write sets what the vehicle reads: a truth value for its access or a number for its speed. -/
def PropertyMap.Write.Concerns (v : Vehicle) (x : PropertyMap.Write) : Prop :=
  x.SetsFlag v.access ∨ x.SetsNumber v.speed

theorem StoredEdge.agreesFor_writeAll {v : Vehicle} (e : StoredEdge)
    {writes : List PropertyMap.Write} (h : ∀ x ∈ writes, ¬ x.Concerns v) :
    e.AgreesFor (e.writeAll writes) v where
  id := rfl
  startNode := rfl
  endNode := rfl
  distance := rfl
  access d := by
    have hflags : ∀ x ∈ writes, ¬ x.SetsFlag v.access := fun x hx hs => h x hx (.inl hs)
    rw [StoredEdge.writeAll, PropertyMap.flag?_writeAll e.properties hflags]
  speed d := by
    have hnumbers : ∀ x ∈ writes, ¬ x.SetsNumber v.speed := fun x hx hs => h x hx (.inr hs)
    rw [StoredEdge.writeAll, PropertyMap.number?_writeAll e.properties hnumbers]

namespace Weighting

/-- Vehicles do not interfere: writes that do not concern the vehicle of a weighting leave all its
    costs as they are, and edges that agree for the vehicle cost the same however they were
    written. -/
theorem sameOnStored_of_own_properties (w : Weighting) :
    (∀ (e : StoredEdge) (writes : List PropertyMap.Write),
        (∀ x ∈ writes, ¬ x.Concerns w.vehicle) → w.SameOnStored e (e.writeAll writes)) ∧
      ∀ e f : StoredEdge, e.AgreesFor f w.vehicle → w.SameOnStored e f :=
  ⟨fun e _ h => (e.agreesFor_writeAll h).sameOnStored, fun _ _ h => h.sameOnStored⟩

theorem sameOnStored_of_foreign_writes :
    let car : Vehicle := ⟨"car", ⟨120⟩, true⟩
    let truck : Vehicle := ⟨"car_access", ⟨80⟩, true⟩
    let w := Weighting.query (.plain ⟨.fastest, ⟨⟨"fastest", "car"⟩, car, .free⟩⟩)
      (.outside ⟨0, fun _ => 1, fun _ => 1000⟩)
    let e : StoredEdge := ⟨3, 1, 2, ⟨1000⟩,
      (PropertyMap.empty.setFlag car.access .forward true).setNumber car.speed .forward 60⟩
    let f : StoredEdge := ⟨3, 1, 2, ⟨1000⟩, PropertyMap.empty.writeAll
      [.number car.speed .forward 10, .flag car.access .backward false,
        .number car.speed .forward 60, .flag car.access .forward true]⟩
    let writes : List PropertyMap.Write :=
      [.number car.access .forward 7, .flag car.speed .backward true,
        .flag truck.access .forward true, .flag truck.access .forward false]
    (∀ x ∈ writes, ¬ x.Concerns w.vehicle) ∧ w.SameOnStored e (e.writeAll writes) ∧
      e.AgreesFor f w.vehicle ∧ w.SameOnStored e f := by
  intro car truck w e f writes
  have hwrites : ∀ x ∈ writes, ¬ x.Concerns w.vehicle := by
    simp [writes, w, car, truck, PropertyMap.Write.Concerns, PropertyMap.Write.SetsFlag,
      PropertyMap.Write.SetsNumber, vehicle, Vehicle.access, Vehicle.speed]
  have hagrees : e.AgreesFor f w.vehicle :=
    ⟨rfl, rfl, rfl, rfl, fun d => by cases d <;> rfl, fun d => by cases d <;> rfl⟩
  exact ⟨hwrites, (sameOnStored_of_own_properties w).1 e writes hwrites, hagrees,
    (sameOnStored_of_own_properties w).2 e f hagrees⟩

end Weighting

end RoutingCosts
