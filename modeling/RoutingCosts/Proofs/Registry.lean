import RoutingCosts.Proofs.Number.Words
import RoutingCosts.Vehicle

set_option autoImplicit false

namespace RoutingCosts

structure Kmh.IsUsable (v : Kmh) : Prop where
  finite : v.value.isFinite = true
  pos : 0 < v.value

theorem Kmh.isUsable_iff {v : Kmh} :
    v.IsUsable ↔ v.value.isFinite = true ∧ ¬ v.value ≤ 0 := by
  have hpos (h : v.value.isFinite = true) : 0 < v.value ↔ ¬ v.value ≤ 0 :=
    lt_iff_not_le isAmount_zero.isNaN_eq_false (isNaN_eq_false_of_isFinite h)
  exact ⟨fun h => ⟨h.finite, (hpos h.finite).1 h.pos⟩, fun h => ⟨h.1, (hpos h.1).2 h.2⟩⟩

namespace Registry

theorem isMaxSpeed_iff {v : Kmh} : isMaxSpeed v = true ↔ v.IsUsable := by
  rw [isMaxSpeed, Bool.and_eq_true, Bool.not_eq_true', decide_eq_false_iff_not, Kmh.isUsable_iff]

section Faults

/-- The vehicle `v` at place `i` cannot be registered: its maximal speed is of no use, or a vehicle
    before it has its name. -/
structure FaultAt (vs : List Vehicle) (i : Nat) (v : Vehicle) : Prop where
  place : vs[i]? = some v
  fault : ¬ v.maxSpeed.IsUsable ∨ ∃ u ∈ vs.take i, u.name = v.name

structure FirstFault (vs : List Vehicle) (i : Nat) (v : Vehicle) : Prop where
  fault : FaultAt vs i v
  first : ∀ j < i, ∀ u, ¬ FaultAt vs j u

variable {vs before after : List Vehicle} {i j : Nat} {u v : Vehicle}

theorem faultAt_append_iff (h : i < before.length) :
    FaultAt (before ++ after) i v ↔ FaultAt before i v := by
  have hplace : (before ++ after)[i]? = before[i]? := List.getElem?_append_left h
  have htake : (before ++ after).take i = before.take i :=
    List.take_append_of_le_length (Nat.le_of_lt h)
  constructor
  · rintro ⟨hp, hf⟩
    exact ⟨hplace ▸ hp, htake ▸ hf⟩
  · rintro ⟨hp, hf⟩
    exact ⟨hplace.symm ▸ hp, htake.symm ▸ hf⟩

theorem faultAt_length_iff :
    FaultAt (before ++ v :: after) before.length v ↔
      ¬ v.maxSpeed.IsUsable ∨ ∃ u ∈ before, u.name = v.name := by
  have htake : (before ++ v :: after).take before.length = before := by simp
  constructor
  · rintro ⟨-, hf⟩
    rwa [htake] at hf
  · intro hf
    exact ⟨by simp, by rwa [htake]⟩

theorem firstFault_length (hbefore : ∀ i u, ¬ FaultAt before i u)
    (hv : ¬ v.maxSpeed.IsUsable ∨ ∃ u ∈ before, u.name = v.name) :
    FirstFault (before ++ v :: after) before.length v where
  fault := faultAt_length_iff.2 hv
  first j hj u := mt (faultAt_append_iff hj).1 (hbefore j u)

theorem forall_not_faultAt_concat_iff :
    (∀ i u, ¬ FaultAt (before ++ [v]) i u) ↔
      (∀ i u, ¬ FaultAt before i u) ∧ v.maxSpeed.IsUsable ∧ ∀ u ∈ before, u.name ≠ v.name := by
  constructor
  · intro h
    have hv := mt faultAt_length_iff.2 (h before.length v)
    obtain ⟨husable, hname⟩ := not_or.1 hv
    refine ⟨fun i u hu => h i u ?_, not_not.1 husable, fun u hu huv => hname ⟨u, hu, huv⟩⟩
    exact (faultAt_append_iff (List.getElem?_eq_some_iff.1 hu.place).1).2 hu
  · rintro ⟨hbefore, husable, hname⟩ i u h
    have hlt := (List.getElem?_eq_some_iff.1 h.place).1
    rw [List.length_append, List.length_singleton] at hlt
    rcases Nat.lt_succ_iff_lt_or_eq.1 hlt with hi | rfl
    · exact hbefore i u ((faultAt_append_iff hi).1 h)
    · obtain rfl : v = u := by simpa using h.place
      rcases faultAt_length_iff.1 h with hspeed | ⟨w, hw, hwv⟩
      · exact hspeed husable
      · exact hname w hw hwv

theorem forall_not_faultAt_iff :
    (∀ i v, ¬ FaultAt vs i v) ↔ (∀ v ∈ vs, v.maxSpeed.IsUsable) ∧ (vs.map Vehicle.name).Nodup := by
  induction vs using List.reverseRecOn with
  | nil =>
    have hnone : ∀ i v, ¬ FaultAt [] i v := fun i v h => nomatch h.place
    simpa using hnone
  | append_singleton vs v ih =>
    rw [forall_not_faultAt_concat_iff, ih, List.map_append, List.map_singleton,
      List.nodup_append, List.forall_mem_append]
    constructor
    · rintro ⟨⟨hspeeds, hnames⟩, husable, hname⟩
      refine ⟨⟨hspeeds, List.forall_mem_singleton.2 husable⟩, hnames, List.nodup_singleton _, ?_⟩
      simpa using hname
    · rintro ⟨⟨hspeeds, husable⟩, hnames, -, hname⟩
      refine ⟨⟨hspeeds, hnames⟩, husable v (List.mem_singleton_self v), ?_⟩
      simpa using hname

theorem FirstFault.unique (h : FirstFault vs i u) (h' : FirstFault vs j v) : u = v := by
  rcases Nat.lt_trichotomy i j with hij | rfl | hij
  · exact absurd h.fault (h'.first i hij u)
  · exact Option.some.inj (h.fault.place.symm.trans h'.fault.place)
  · exact absurd h'.fault (h.first j hij v)

end Faults

/-- What comes of the vehicles that are given to a registry. -/
inductive Judges (vs : List Vehicle) : Except CostError Registry → Prop
  | accepted (speeds : ∀ v ∈ vs, v.maxSpeed.IsUsable) (names : (vs.map Vehicle.name).Nodup) :
      Judges vs (.ok ⟨vs.map fun v => { v with registered := true }⟩)
  | badSpeed {i : Nat} {v : Vehicle} (first : FirstFault vs i v) (bad : ¬ v.maxSpeed.IsUsable) :
      Judges vs (.error (.invalidMaxSpeed v.name v.maxSpeed))
  | duplicate {i : Nat} {v : Vehicle} (first : FirstFault vs i v)
      (usable : v.maxSpeed.IsUsable) : Judges vs (.error (.duplicateVehicle v.name))

section Judgement

variable {vs : List Vehicle} {outcome outcome' : Except CostError Registry}

theorem Judges.unique (h : Judges vs outcome) (h' : Judges vs outcome') : outcome = outcome' := by
  have hnone {i : Nat} {v : Vehicle} (hspeeds : ∀ v ∈ vs, v.maxSpeed.IsUsable)
      (hnames : (vs.map Vehicle.name).Nodup) : ¬ FirstFault vs i v :=
    fun hf => forall_not_faultAt_iff.2 ⟨hspeeds, hnames⟩ i v hf.fault
  cases h with
  | accepted speeds names =>
    cases h' with
    | accepted => rfl
    | badSpeed first => exact absurd first (hnone speeds names)
    | duplicate first => exact absurd first (hnone speeds names)
  | badSpeed first bad =>
    cases h' with
    | accepted speeds names => exact absurd first (hnone speeds names)
    | badSpeed first' => rw [first.unique first']
    | duplicate first' usable => exact absurd (first.unique first' ▸ usable) bad
  | duplicate first usable =>
    cases h' with
    | accepted speeds names => exact absurd first (hnone speeds names)
    | badSpeed first' bad => exact absurd (first.unique first' ▸ usable) bad
    | duplicate first' => rw [first.unique first']

/-- In the middle of the check: the names seen are those of the vehicles before, and none of these
    is at fault. -/
theorem judges_check {before rest : List Vehicle} {seen : List String}
    (hseen : ∀ name, name ∈ seen ↔ ∃ u ∈ before, u.name = name)
    (hbefore : ∀ i u, ¬ FaultAt before i u) :
    Judges (before ++ rest) ((check seen rest).map fun _ =>
      ⟨(before ++ rest).map fun v => { v with registered := true }⟩) := by
  induction rest generalizing before seen with
  | nil =>
    rw [List.append_nil]
    obtain ⟨hspeeds, hnames⟩ := forall_not_faultAt_iff.1 hbefore
    exact .accepted hspeeds hnames
  | cons v rest ih =>
    rw [check]
    by_cases husable : v.maxSpeed.IsUsable
    · rw [isMaxSpeed_iff.2 husable, Bool.not_true, if_neg Bool.false_ne_true]
      by_cases hname : v.name ∈ seen
      · rw [if_pos hname]
        exact .duplicate (firstFault_length hbefore (.inr ((hseen _).1 hname))) husable
      · rw [if_neg hname, List.append_cons]
        refine ih (fun name => ?_) (forall_not_faultAt_concat_iff.2 ⟨hbefore, husable, ?_⟩)
        · simp [hseen, or_comm, eq_comm]
        · exact fun u hu huv => hname ((hseen _).2 ⟨u, hu, huv⟩)
    · have hspeed : isMaxSpeed v.maxSpeed = false :=
        Bool.eq_false_iff.2 (mt isMaxSpeed_iff.1 husable)
      rw [hspeed, Bool.not_false, if_pos rfl]
      exact .badSpeed (firstFault_length hbefore (.inl husable)) husable

theorem judges_ofVehicles (vs : List Vehicle) : Judges vs (ofVehicles vs) := by
  have hnone : ∀ i v, ¬ FaultAt [] i v := fun i v h => nomatch h.place
  exact @judges_check [] vs [] (by simp) hnone

theorem ofVehicles_eq_iff_judges : ofVehicles vs = outcome ↔ Judges vs outcome :=
  ⟨fun h => h ▸ judges_ofVehicles vs, fun h => (judges_ofVehicles vs).unique h⟩

theorem ofVehicles_eq_ok_iff {r : Registry} :
    ofVehicles vs = .ok r ↔
      (∀ v ∈ vs, v.maxSpeed.IsUsable) ∧ (vs.map Vehicle.name).Nodup ∧
        r = ⟨vs.map fun v => { v with registered := true }⟩ := by
  rw [ofVehicles_eq_iff_judges]
  constructor
  · intro h
    cases h with
    | accepted speeds names => exact ⟨speeds, names, rfl⟩
  · rintro ⟨speeds, names, rfl⟩
    exact .accepted speeds names

end Judgement

section Lookup

variable {vs : List Vehicle} {r : Registry} {name : String} {v : Vehicle}

theorem mem_of_vehicle (h : r.vehicle name = .ok v) : v ∈ r.vehicles := by
  unfold vehicle at h
  split at h
  · rename_i u hu
    cases h
    exact List.mem_of_find?_eq_some hu
  · cases h

theorem vehicle_of_unknown (h : ∀ v ∈ r.vehicles, v.name ≠ name) :
    r.vehicle name = .error (.unknownVehicle name) := by
  have hnone : (r.vehicles.find? fun v => v.name == name) = none :=
    List.find?_eq_none.2 fun v hv => by simpa using h v hv
  rw [vehicle, hnone]

theorem has_iff : r.has name = true ↔ ∃ v ∈ r.vehicles, v.name = name := by
  simp [has]

theorem exists_of_mem (h : ofVehicles vs = .ok r) (hv : v ∈ r.vehicles) :
    ∃ u ∈ vs, u.maxSpeed.IsUsable ∧ v = { u with registered := true } := by
  obtain ⟨hspeeds, -, rfl⟩ := ofVehicles_eq_ok_iff.1 h
  obtain ⟨u, hu, rfl⟩ := List.mem_map.1 hv
  exact ⟨u, hu, hspeeds u hu, rfl⟩

theorem registered_of_mem (h : ofVehicles vs = .ok r) (hv : v ∈ r.vehicles) :
    v.registered = true := by
  obtain ⟨u, -, -, rfl⟩ := exists_of_mem h hv
  rfl

theorem isUsable_of_mem (h : ofVehicles vs = .ok r) (hv : v ∈ r.vehicles) :
    v.maxSpeed.IsUsable := by
  obtain ⟨u, -, hu, rfl⟩ := exists_of_mem h hv
  exact hu

theorem map_name_vehicles (h : ofVehicles vs = .ok r) :
    r.vehicles.map Vehicle.name = vs.map Vehicle.name := by
  obtain ⟨-, -, rfl⟩ := ofVehicles_eq_ok_iff.1 h
  rw [List.map_map]
  rfl

theorem vehicle_eq_ok_iff (h : ofVehicles vs = .ok r) :
    r.vehicle name = .ok v ↔ v ∈ r.vehicles ∧ v.name = name := by
  refine ⟨fun hv => ⟨mem_of_vehicle hv, name_of_vehicle hv⟩, fun ⟨hv, hname⟩ => ?_⟩
  have hnodup : (r.vehicles.map Vehicle.name).Nodup := by
    rw [map_name_vehicles h]
    exact (ofVehicles_eq_ok_iff.1 h).2.1
  cases hu : r.vehicles.find? fun u => u.name == name with
  | none => exact absurd hname (by simpa using List.find?_eq_none.1 hu v hv)
  | some u =>
    have huname : u.name = name := by simpa using List.find?_some hu
    have huv : u = v := List.inj_on_of_nodup_map hnodup (List.mem_of_find?_eq_some hu) hv
      (huname.trans hname.symm)
    rw [vehicle, hu, huv]

end Lookup

structure Keeps (r : Registry) (vs : List Vehicle) : Prop where
  names : r.vehicles.map Vehicle.name = vs.map Vehicle.name
  maxSpeeds : r.vehicles.map Vehicle.maxSpeed = vs.map Vehicle.maxSpeed
  access : r.vehicles.map Vehicle.access = vs.map Vehicle.access
  speed : r.vehicles.map Vehicle.speed = vs.map Vehicle.speed
  registered : ∀ v ∈ r.vehicles, v.registered = true

structure Knows (r : Registry) (vs : List Vehicle) (name : String) : Prop where
  succeeds : (∃ v, r.vehicle name = .ok v) ↔ name ∈ vs.map Vehicle.name
  has : r.has name = true ↔ name ∈ vs.map Vehicle.name
  found : ∀ v, r.vehicle name = .ok v ↔ v ∈ r.vehicles ∧ v.name = name
  unknown : name ∉ vs.map Vehicle.name → r.vehicle name = .error (.unknownVehicle name)

section Made

variable {vs : List Vehicle} {r : Registry}

theorem keeps_of_ofVehicles (h : ofVehicles vs = .ok r) : r.Keeps vs := by
  obtain ⟨-, -, rfl⟩ := ofVehicles_eq_ok_iff.1 h
  refine ⟨?_, ?_, ?_, ?_, fun v hv => registered_of_mem h hv⟩
  all_goals
    rw [List.map_map]
    rfl

theorem knows_of_ofVehicles (h : ofVehicles vs = .ok r) (name : String) : r.Knows vs name := by
  have hmem : name ∈ vs.map Vehicle.name ↔ ∃ v ∈ r.vehicles, v.name = name := by
    rw [← map_name_vehicles h, List.mem_map]
  refine ⟨?_, has_iff.trans hmem.symm, fun v => vehicle_eq_ok_iff h, fun hname => ?_⟩
  · rw [hmem]
    exact exists_congr fun v => vehicle_eq_ok_iff h
  · exact vehicle_of_unknown fun v hv hv' => hname (hmem.2 ⟨v, hv, hv'⟩)

end Made

/-- A registry accepts exactly the lists of vehicles that are in order, and reports the first fault
    of any other. What it accepts it keeps, and it finds each vehicle by its name. Configured
    vehicles are judged like any others. -/
theorem accepts_exactly_in_order (vs : List Vehicle) :
    (∀ outcome, ofVehicles vs = outcome ↔ Judges vs outcome) ∧
      (∀ r, ofVehicles vs = .ok r → r.Keeps vs ∧ ∀ name, r.Knows vs name) ∧
      ∀ configs : List VehicleConfig,
        ofConfigs configs = ofVehicles (configs.map fun c => .new c.name ⟨c.maxSpeed⟩) :=
  ⟨fun _ => ofVehicles_eq_iff_judges,
    fun _ h => ⟨keeps_of_ofVehicles h, knows_of_ofVehicles h⟩, fun _ => rfl⟩

theorem accepts_exactly_in_order_of_capital :
    let vs : List Vehicle := [.new "car" ⟨140⟩, .new "Car" ⟨0.5⟩]
    let r : Registry := ⟨[⟨"car", ⟨140⟩, true⟩, ⟨"Car", ⟨0.5⟩, true⟩]⟩
    ofVehicles vs = .ok r ∧ Judges vs (.ok r) ∧ r.Keeps vs ∧
      r.vehicle "Car" = .ok ⟨"Car", ⟨0.5⟩, true⟩ ∧
      r.vehicle "CAR" = .error (.unknownVehicle "CAR") := by
  intro vs r
  have hmade : ofVehicles vs = .ok r := rfl
  obtain ⟨hjudges, hmakes, -⟩ := accepts_exactly_in_order vs
  obtain ⟨hkeeps, hknows⟩ := hmakes r hmade
  refine ⟨hmade, (hjudges _).1 hmade, hkeeps, ((hknows "Car").found _).2 ?_,
    (hknows "CAR").unknown ?_⟩
  · simp [r]
  · simp [vs, Vehicle.new]

example :
    ofVehicles [.new "car" ⟨140⟩, .new "car" ⟨-0.0⟩, .new "bike" ⟨0⟩] =
      .error (.invalidMaxSpeed "car" ⟨-0.0⟩) := rfl

end Registry

end RoutingCosts
