import RoutingCosts.Proofs.Weighting.Constructible

set_option autoImplicit false

namespace RoutingCosts

/-- What has been made so far, in the order in which it was made. -/
structure Session where
  vehicles : List Vehicle
  registries : List Registry
  bases : List Basis
  weightings : List Weighting

namespace Session

def start : Session := ⟨[], [], [], []⟩

/-- A call names what it works on by its place in the session. -/
inductive Call where
  | newVehicle (name : String) (maxSpeed : Kmh)
  | configuredVehicle (config : VehicleConfig)
  | register (vehicles : List Nat)
  | registerConfigs (configs : List VehicleConfig)
  | findVehicle (registry : Nat) (name : String)
  | listVehicles (registry : Nat)
  | newBasis (name : String) (vehicle : Nat) (costs : TurnCosts)
  | newPlain (model : CostModel) (vehicle : Nat) (costs : TurnCosts)
  | ofProfile (registry : Nat) (table : TurnTable) (profile : Profile)
  | ofProfiles (registry : Nat) (table : TurnTable) (profiles : List Profile)
  | query (weighting : Nat) (costs : TurnCosts)

section Calls

variable (s : Session)

def addVehicles (vs : List Vehicle) : Session := { s with vehicles := s.vehicles ++ vs }

def addRegistry (r : Registry) : Session := { s with registries := s.registries ++ [r] }

def addBasis (b : Basis) : Session := { s with bases := s.bases ++ [b] }

def addWeightings (ws : List Weighting) : Session := { s with weightings := s.weightings ++ ws }

/-- The session after a call; none if the call fails or names a place where nothing is. -/
def attempt : Call → Option Session
  | .newVehicle name maxSpeed => some (s.addVehicles [.new name maxSpeed])
  | .configuredVehicle config => some (s.addVehicles [config.vehicle])
  | .register places => do
    let vs ← places.mapM fun place => s.vehicles[place]?
    let r ← (Registry.ofVehicles vs).toOption
    return s.addRegistry r
  | .registerConfigs configs => do
    let r ← (Registry.ofConfigs configs).toOption
    return s.addRegistry r
  | .findVehicle place name => do
    let r ← s.registries[place]?
    let v ← (r.vehicle name).toOption
    return s.addVehicles [v]
  | .listVehicles place => do
    let r ← s.registries[place]?
    return s.addVehicles r.vehicles
  | .newBasis name place costs => do
    let v ← s.vehicles[place]?
    let b ← (Basis.new name v costs).toOption
    return s.addBasis b
  | .newPlain model place costs => do
    let v ← s.vehicles[place]?
    let w ← (PlainWeighting.new model v costs).toOption
    return s.addWeightings [.plain w]
  | .ofProfile place table p => do
    let r ← s.registries[place]?
    let w ← (p.plainWeighting r table).toOption
    return s.addWeightings [.plain w]
  | .ofProfiles place table ps => do
    let r ← s.registries[place]?
    let ws ← (Profile.plainWeightings ps r table).toOption
    return s.addWeightings (ws.map .plain)
  | .query place costs => do
    let w ← s.weightings[place]?
    return s.addWeightings [w.query costs]

def step (call : Call) : Session := (s.attempt call).getD s

end Calls

def run (calls : List Call) : Session := calls.foldl step start

/-- What a call that succeeds can have done. -/
inductive Grows (s : Session) : Session → Prop
  | unregistered (name : String) (maxSpeed : Kmh) : Grows s (s.addVehicles [.new name maxSpeed])
  | registered {r : Registry} (known : r ∈ s.registries) {vs : List Vehicle}
      (mem : ∀ v ∈ vs, v ∈ r.vehicles) : Grows s (s.addVehicles vs)
  | registry {vs : List Vehicle} {r : Registry} (made : Registry.ofVehicles vs = .ok r) :
      Grows s (s.addRegistry r)
  | basis {name : String} {v : Vehicle} {costs : TurnCosts} {b : Basis} (known : v ∈ s.vehicles)
      (made : Basis.new name v costs = .ok b) : Grows s (s.addBasis b)
  | plain {model : CostModel} {v : Vehicle} {costs : TurnCosts} {w : PlainWeighting}
      (known : v ∈ s.vehicles) (made : PlainWeighting.new model v costs = .ok w) :
      Grows s (s.addWeightings [.plain w])
  | profiles {r : Registry} {table : TurnTable} {ps : List Profile} {ws : List PlainWeighting}
      (known : r ∈ s.registries) (made : ∀ w ∈ ws, ∃ p ∈ ps, p.plainWeighting r table = .ok w) :
      Grows s (s.addWeightings (ws.map .plain))
  | query {w : Weighting} (known : w ∈ s.weightings) (costs : TurnCosts) :
      Grows s (s.addWeightings [w.query costs])

theorem eq_ok_of_toOption {ε α : Type} {x : Except ε α} {a : α} (h : x.toOption = some a) :
    x = .ok a := by
  cases x with
  | error e => cases h
  | ok b => rw [Option.some.inj h]

theorem grows_of_attempt {s s' : Session} {call : Call} (h : s.attempt call = some s') :
    s.Grows s' := by
  cases call with
  | newVehicle name maxSpeed =>
    cases h
    exact .unregistered name maxSpeed
  | configuredVehicle config =>
    cases h
    exact .unregistered config.name ⟨config.maxSpeed⟩
  | register places =>
    obtain ⟨vs, -, h⟩ := Option.bind_eq_some_iff.1 h
    obtain ⟨r, hr, h⟩ := Option.bind_eq_some_iff.1 h
    cases h
    exact .registry (eq_ok_of_toOption hr)
  | registerConfigs configs =>
    obtain ⟨r, hr, h⟩ := Option.bind_eq_some_iff.1 h
    cases h
    exact .registry (eq_ok_of_toOption hr)
  | findVehicle place name =>
    obtain ⟨r, hr, h⟩ := Option.bind_eq_some_iff.1 h
    obtain ⟨v, hv, h⟩ := Option.bind_eq_some_iff.1 h
    cases h
    have hmem := Registry.mem_of_vehicle (eq_ok_of_toOption hv)
    exact .registered (List.mem_of_getElem? hr) (List.forall_mem_singleton.2 hmem)
  | listVehicles place =>
    obtain ⟨r, hr, h⟩ := Option.bind_eq_some_iff.1 h
    cases h
    exact .registered (List.mem_of_getElem? hr) fun _ hv => hv
  | newBasis name place costs =>
    obtain ⟨v, hv, h⟩ := Option.bind_eq_some_iff.1 h
    obtain ⟨b, hb, h⟩ := Option.bind_eq_some_iff.1 h
    cases h
    exact .basis (List.mem_of_getElem? hv) (eq_ok_of_toOption hb)
  | newPlain model place costs =>
    obtain ⟨v, hv, h⟩ := Option.bind_eq_some_iff.1 h
    obtain ⟨w, hw, h⟩ := Option.bind_eq_some_iff.1 h
    cases h
    exact .plain (List.mem_of_getElem? hv) (eq_ok_of_toOption hw)
  | ofProfile place table p =>
    obtain ⟨r, hr, h⟩ := Option.bind_eq_some_iff.1 h
    obtain ⟨w, hw, h⟩ := Option.bind_eq_some_iff.1 h
    cases h
    have hmade : ∀ x ∈ [w], ∃ q ∈ [p], q.plainWeighting r table = .ok x :=
      List.forall_mem_singleton.2 ⟨p, List.mem_singleton_self p, eq_ok_of_toOption hw⟩
    exact .profiles (List.mem_of_getElem? hr) hmade
  | ofProfiles place table ps =>
    obtain ⟨r, hr, h⟩ := Option.bind_eq_some_iff.1 h
    obtain ⟨ws, hws, h⟩ := Option.bind_eq_some_iff.1 h
    cases h
    exact .profiles (List.mem_of_getElem? hr) fun _ hw =>
      Profile.exists_of_mem_plainWeightings (eq_ok_of_toOption hws) hw
  | query place costs =>
    obtain ⟨w, hw, h⟩ := Option.bind_eq_some_iff.1 h
    cases h
    exact .query (List.mem_of_getElem? hw) costs

structure Licenses (s : Session) (key : Key) (v : Vehicle) : Prop where
  registered : v.registered = true
  known : ∃ r ∈ s.registries, v ∈ r.vehicles
  validName : isValidName key.name = true
  vehicleName : key.vehicle = v.name

theorem Licenses.mono {s s' : Session} {key : Key} {v : Vehicle} (h : s.Licenses key v)
    (hsub : s.registries ⊆ s'.registries) : s'.Licenses key v := by
  obtain ⟨r, hr, hv⟩ := h.known
  exact ⟨h.registered, ⟨r, hsub hr, hv⟩, h.validName, h.vehicleName⟩

def HasModelName (w : Weighting) : Prop :=
  ∃ model : CostModel, w.key.name = model.name ∧
    ∀ distance, w.minWeight distance = model.minWeight w.vehicle distance

/-- What every call keeps. -/
structure Sound (s : Session) : Prop where
  registries : ∀ r ∈ s.registries, ∃ vs, Registry.ofVehicles vs = .ok r
  vehicles : ∀ v ∈ s.vehicles, v.registered = true → ∃ r ∈ s.registries, v ∈ r.vehicles
  bases : ∀ b ∈ s.bases, s.Licenses b.key b.vehicle
  weightings : ∀ w ∈ s.weightings, s.Licenses w.key w.vehicle ∧ HasModelName w

variable {s s' : Session}

theorem isValidName_model (model : CostModel) : isValidName model.name = true := by
  cases model <;> decide

theorem licenses_of_new {model : CostModel} {v : Vehicle} {costs : TurnCosts} {w : PlainWeighting}
    (known : v.registered = true → ∃ r ∈ s.registries, v ∈ r.vehicles)
    (made : PlainWeighting.new model v costs = .ok w) :
    s.Licenses w.basis.key w.basis.vehicle ∧ HasModelName (.plain w) := by
  obtain ⟨hv, rfl⟩ := PlainWeighting.new_eq_ok_iff.1 made
  exact ⟨⟨hv, known hv, isValidName_model model, rfl⟩, model, rfl, fun _ => rfl⟩

theorem licenses_of_newBasis {name : String} {v : Vehicle} {costs : TurnCosts} {b : Basis}
    (known : v.registered = true → ∃ r ∈ s.registries, v ∈ r.vehicles)
    (made : Basis.new name v costs = .ok b) : s.Licenses b.key b.vehicle := by
  unfold Basis.new Key.new at made
  cases hv : v.registered <;> cases hn : isValidName name <;>
    simp only [hv, hn, Bool.not_true, Bool.not_false, Bool.false_eq_true, if_true, if_false] at made
  · cases made
  · cases made
  · cases made
  · cases made
    exact ⟨hv, known hv, hn, rfl⟩

theorem Sound.addVehicles (h : s.Sound) {vs : List Vehicle}
    (known : ∀ v ∈ vs, v.registered = true → ∃ r ∈ s.registries, v ∈ r.vehicles) :
    (s.addVehicles vs).Sound where
  registries := h.registries
  vehicles v hv := (List.mem_append.1 hv).elim (h.vehicles v) (known v)
  bases b hb := (h.bases b hb).mono fun _ hr => hr
  weightings w hw := ⟨(h.weightings w hw).1.mono fun _ hr => hr, (h.weightings w hw).2⟩

theorem Sound.addRegistry (h : s.Sound) {vs : List Vehicle} {r : Registry}
    (made : Registry.ofVehicles vs = .ok r) : (s.addRegistry r).Sound := by
  have hsub : s.registries ⊆ (s.addRegistry r).registries := List.subset_append_left _ _
  refine ⟨fun r' hr' => ?_, fun v hv hreg => ?_, fun b hb => (h.bases b hb).mono hsub,
    fun w hw => ⟨(h.weightings w hw).1.mono hsub, (h.weightings w hw).2⟩⟩
  · rcases List.mem_append.1 hr' with hr' | hr'
    · exact h.registries r' hr'
    · rw [List.mem_singleton.1 hr']
      exact ⟨vs, made⟩
  · obtain ⟨r', hr', hmem⟩ := h.vehicles v hv hreg
    exact ⟨r', hsub hr', hmem⟩

theorem Sound.addBasis (h : s.Sound) {b : Basis} (licensed : s.Licenses b.key b.vehicle) :
    (s.addBasis b).Sound where
  registries := h.registries
  vehicles := h.vehicles
  bases c hc := by
    rcases List.mem_append.1 hc with hc | hc
    · exact (h.bases c hc).mono fun _ hr => hr
    · rw [List.mem_singleton.1 hc]
      exact licensed.mono fun _ hr => hr
  weightings w hw := ⟨(h.weightings w hw).1.mono fun _ hr => hr, (h.weightings w hw).2⟩

theorem Sound.addWeightings (h : s.Sound) {ws : List Weighting}
    (licensed : ∀ w ∈ ws, s.Licenses w.key w.vehicle ∧ HasModelName w) :
    (s.addWeightings ws).Sound where
  registries := h.registries
  vehicles := h.vehicles
  bases b hb := (h.bases b hb).mono fun _ hr => hr
  weightings w hw := by
    have hall : s.Licenses w.key w.vehicle ∧ HasModelName w :=
      (List.mem_append.1 hw).elim (h.weightings w) (licensed w)
    exact ⟨hall.1.mono fun _ hr => hr, hall.2⟩

theorem Sound.grows (h : s.Sound) (hg : s.Grows s') : s'.Sound := by
  cases hg with
  | unregistered name maxSpeed =>
    exact h.addVehicles (List.forall_mem_singleton.2 nofun)
  | registered known mem => exact h.addVehicles fun v hv _ => ⟨_, known, mem v hv⟩
  | registry made => exact h.addRegistry made
  | basis known made => exact h.addBasis (licenses_of_newBasis (h.vehicles _ known) made)
  | plain known made =>
    exact h.addWeightings (List.forall_mem_singleton.2 (licenses_of_new (h.vehicles _ known) made))
  | profiles known made =>
    refine h.addWeightings fun w hw => ?_
    obtain ⟨x, hx, rfl⟩ := List.mem_map.1 hw
    obtain ⟨p, -, hp⟩ := made x hx
    obtain ⟨v, costs, model, hv, -, -, hnew⟩ := Profile.plainWeighting_eq_ok_iff.1 hp
    exact licenses_of_new (fun _ => ⟨_, known, Registry.mem_of_vehicle hv⟩) hnew
  | query known costs =>
    have hlicensed := h.weightings _ known
    exact h.addWeightings (List.forall_mem_singleton.2 hlicensed)

theorem Sound.step (h : s.Sound) (call : Call) : (s.step call).Sound := by
  rw [Session.step]
  cases hc : s.attempt call with
  | none => exact h
  | some s' => exact h.grows (grows_of_attempt hc)

theorem sound_start : start.Sound := ⟨nofun, nofun, nofun, nofun⟩

theorem sound_run (calls : List Call) : (run calls).Sound := by
  unfold run
  induction calls using List.reverseRecOn with
  | nil => exact sound_start
  | append_singleton calls call ih =>
    rw [List.foldl_append]
    exact ih.step call

/-- What the session vouches for in a weighting with this key and this vehicle. That properties and
    canonical text are those of the names comes with `vehicleName`: they are not kept beside them. -/
structure Vouches (s : Session) (key : Key) (v : Vehicle) : Prop where
  registered : v.registered = true
  accepted : ∃ r ∈ s.registries, ∃ vs, Registry.ofVehicles vs = .ok r ∧
    ∃ u ∈ vs, u.name = v.name ∧ u.maxSpeed = v.maxSpeed
  finite : v.maxSpeed.value.isFinite = true
  positive : 0 < v.maxSpeed.value
  access : v.access = .access key.vehicle
  speed : v.speed = .speed key.vehicle
  validName : isValidName key.name = true
  vehicleName : key.vehicle = v.name
  canonical : key.canonical = key.name ++ "|" ++ v.name

theorem Sound.vouches (h : s.Sound) {key : Key} {v : Vehicle} (licensed : s.Licenses key v) :
    s.Vouches key v := by
  obtain ⟨r, hr, hv⟩ := licensed.known
  obtain ⟨vs, hvs⟩ := h.registries r hr
  obtain ⟨u, hu, -, hvu⟩ := Registry.exists_of_mem hvs hv
  obtain ⟨hfinite, hpos⟩ := Registry.isUsable_of_mem hvs hv
  exact {
    registered := licensed.registered
    accepted := ⟨r, hr, vs, hvs, u, hu, by rw [hvu], by rw [hvu]⟩
    finite := hfinite
    positive := hpos
    access := by rw [licensed.vehicleName]; rfl
    speed := by rw [licensed.vehicleName]; rfl
    validName := licensed.validName
    vehicleName := licensed.vehicleName
    canonical := by rw [Key.canonical, licensed.vehicleName] }

theorem minWeight_of_fastest {w : Weighting} (h : HasModelName w)
    (hname : w.key.name = CostModel.fastest.name) (distance : Meters) :
    w.minWeight distance = distance.value * 3.6 / w.vehicle.maxSpeed.value := by
  obtain ⟨model, hmodel, hmin⟩ := h
  obtain rfl : model = .fastest := CostModel.name_injective (hmodel.symm.trans hname)
  exact hmin distance

/-- However a weighting of a session was made, its vehicle was accepted by a registry of the session
    and its key is as it should be. So the fastest weighting divides by nothing but finite, positive
    maximal speeds. -/
theorem run_vouches (calls : List Call) :
    (∀ b ∈ (run calls).bases, (run calls).Vouches b.key b.vehicle) ∧
      ∀ w ∈ (run calls).weightings, (run calls).Vouches w.key w.vehicle ∧
        (w.key.name = CostModel.fastest.name → ∀ distance : Meters,
          w.minWeight distance = distance.value * 3.6 / w.vehicle.maxSpeed.value) := by
  have h := sound_run calls
  refine ⟨fun b hb => h.vouches (h.bases b hb), fun w hw => ?_⟩
  obtain ⟨licensed, hname⟩ := h.weightings w hw
  exact ⟨h.vouches licensed, minWeight_of_fastest hname⟩

theorem run_vouches_after_failures :
    let costs := TurnCosts.outside ⟨0, fun _ => 1, fun _ => 1000⟩
    let s := run
      [.newVehicle "car" ⟨120⟩, .newPlain .fastest 0 costs, .newVehicle "bike" ⟨0⟩, .register [0, 1],
        .register [0], .findVehicle 0 "car", .newBasis "Own" 2 costs, .newBasis "own" 2 costs,
        .ofProfile 0 .empty ⟨"car", "car", "fastest", true, none⟩, .query 0 costs]
    let car : Vehicle := ⟨"car", ⟨120⟩, true⟩
    let b : Basis := ⟨⟨"own", "car"⟩, car, costs⟩
    let w := Weighting.query (.plain ⟨.fastest, ⟨⟨"fastest", "car"⟩, car, .table .empty none⟩⟩) costs
    b ∈ s.bases ∧ s.Vouches b.key b.vehicle ∧ w ∈ s.weightings ∧ s.Vouches w.key w.vehicle ∧
      w.minWeight ⟨1000⟩ = 1000 * 3.6 / 120 := by
  intro costs s car b w
  have hunregistered : PlainWeighting.new .fastest (.new "car" ⟨120⟩) costs =
      .error (.unregisteredVehicle "car") := rfl
  have hrefused : Registry.ofVehicles [.new "car" ⟨120⟩, .new "bike" ⟨0⟩] =
      .error (.invalidMaxSpeed "bike" ⟨0⟩) := rfl
  have hmade : Registry.ofVehicles [.new "car" ⟨120⟩] = .ok ⟨[car]⟩ := rfl
  have hfound : Registry.vehicle ⟨[car]⟩ "car" = .ok car := rfl
  have hcapital : Basis.new "Own" car costs = .error (.invalidName "Own") := rfl
  have hbasis : Basis.new "own" car costs = .ok b := rfl
  have hprofile : Profile.plainWeighting ⟨"car", "car", "fastest", true, none⟩ ⟨[car]⟩ .empty =
      .ok ⟨.fastest, ⟨⟨"fastest", "car"⟩, car, .table .empty none⟩⟩ := rfl
  have hs : b ∈ s.bases ∧ w ∈ s.weightings := by
    simp [s, run, step, attempt, start, Session.addVehicles, Session.addRegistry, Session.addBasis,
      Session.addWeightings, Except.toOption, hunregistered, hrefused, hmade, hfound, hcapital,
      hbasis, hprofile, w]
  obtain ⟨hb, hw⟩ := hs
  obtain ⟨hvouched, hmin⟩ := (run_vouches _).2 w hw
  exact ⟨hb, (run_vouches _).1 b hb, hw, hvouched, hmin rfl ⟨1000⟩⟩

end Session

end RoutingCosts
