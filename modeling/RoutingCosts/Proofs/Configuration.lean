import RoutingCosts.Profile
import RoutingCosts.Proofs.Json.Number
import RoutingCosts.Proofs.Json.Record
import RoutingCosts.Weighting.Hints

set_option autoImplicit false

open RoutingCosts.Json

namespace RoutingCosts

section Parsing

variable {α : Type} {r : Reader α}

theorem mapError_document {text : String} {cs : List Char} {a : α} (h : r.Reads cs a)
    (htext : IsElement cs text.toList) :
    (r.document text).mapError CostError.configuration = .ok a := by
  rw [h.document htext]
  rfl

theorem mapError_document_error {text : String} {cs : List Char} {f : Fault} (h : r.Refuses cs f)
    (htext : IsElement cs text.toList) :
    (r.document text).mapError CostError.configuration = .error (.configuration f) := by
  rw [h.document htext]
  rfl

theorem mapError_document_list {β : Type} {write : β → String} {bs : List β} {as : List α}
    (h : List.Forall₂ (fun b a => StartsUnlike ']' (write b).toList ∧ r.Reads (write b).toList a)
      bs as) :
    ((Reader.list r).document (listText (bs.map write))).mapError CostError.configuration =
      .ok as := by
  have hitems : List.Forall₂ (fun cs a => StartsUnlike ']' cs ∧ r.Reads cs a)
      ((bs.map write).map String.toList) as := by
    rw [List.map_map]
    exact List.forall₂_map_left_iff.2 h
  exact mapError_document (reads_list hitems (isList_listText _)) (isElement_self _)

end Parsing

section Profiles

/-- What comes back of a profile that is written: the profile itself if its cost of turning back is
    whole, and otherwise the profile without that cost. -/
inductive Profile.ComesBackAs (p : Profile) : Profile → Prop
  | same (whole : ∀ x ∈ p.uTurnCosts, IsWhole x) : ComesBackAs p p
  | dropped {x : Float} (cost : p.uTurnCosts = some x) (infinite : x.isFinite = false) :
      ComesBackAs p { p with uTurnCosts := none }

theorem reads_uTurnCosts {u : Option Float} (h : ∀ x ∈ u, IsWhole x) :
    (Reader.orNull .number).Reads (writeOrNull writeNumber u) u := by
  cases u with
  | none => exact .null .number
  | some x => exact (isNumber_writeNumber (h x rfl)).reads_orNull

namespace Profile

theorem reads_write (p : Profile) {u : Option Float}
    (hu : (Reader.orNull .number).Reads (writeOrNull writeNumber p.uTurnCosts) u) :
    reader.Reads p.write.toList { p with uTurnCosts := u } := by
  have hfills : Fills record.fields record.blank
      [("name", writeText p.name), ("vehicle", writeText p.vehicle),
       ("weighting", writeText p.weighting), ("turn_costs", writeFlag p.turnCosts),
       ("u_turn_costs", writeOrNull writeNumber p.uTurnCosts)]
      ⟨some p.name, some p.vehicle, some p.weighting, some p.turnCosts, some u⟩ := by
    refine .cons rfl rfl ((Reader.Reads.text (isText_writeText p.name)).fill _ _ _ _) ?_
    refine .cons rfl rfl ((Reader.Reads.text (isText_writeText p.vehicle)).fill _ _ _ _) ?_
    refine .cons rfl rfl ((Reader.Reads.text (isText_writeText p.weighting)).fill _ _ _ _) ?_
    refine .cons rfl rfl ((Reader.Reads.flag p.turnCosts).fill _ _ _ _) ?_
    exact .cons rfl rfl (hu.fill _ _ _ _) (.nil _)
  rw [write, String.toList_ofList]
  exact hfills.reads_record rfl

theorem ComesBackAs.reads {p q : Profile} (h : p.ComesBackAs q) :
    reader.Reads p.write.toList q := by
  cases h with
  | same whole => exact p.reads_write (reads_uTurnCosts whole)
  | @dropped x cost infinite =>
    have hnull : writeOrNull writeNumber p.uTurnCosts = ['n', 'u', 'l', 'l'] := by
      rw [cost]
      exact writeNumber_of_not_isFinite infinite
    exact p.reads_write (hnull ▸ .null .number)

theorem startsUnlike_write (p : Profile) : StartsUnlike ']' p.write.toList := by
  rw [write, String.toList_ofList]
  exact startsUnlike_writeObject _

theorem parse_write {p q : Profile} (h : p.ComesBackAs q) : parse p.write = .ok q :=
  mapError_document h.reads (isElement_self _)

theorem parseList_write {ps qs : List Profile} (h : List.Forall₂ ComesBackAs ps qs) :
    parseList (listText (ps.map write)) = .ok qs :=
  mapError_document_list (h.imp fun p _ hpq => ⟨p.startsUnlike_write, hpq.reads⟩)

end Profile

end Profiles

section Vehicles

namespace VehicleConfig

theorem reads_write {c : VehicleConfig} (h : IsWhole c.maxSpeed) :
    reader.Reads c.write.toList c := by
  have hfills : Fills record.fields record.blank
      [("name", writeText c.name), ("max_speed", writeNumber c.maxSpeed)]
      ⟨some c.name, some c.maxSpeed⟩ := by
    refine .cons rfl rfl ((Reader.Reads.text (isText_writeText c.name)).fill _ _ _ _) ?_
    exact .cons rfl rfl ((isNumber_writeNumber h).reads.fill _ _ _ _) (.nil _)
  rw [write, String.toList_ofList]
  exact hfills.reads_record rfl

theorem startsUnlike_write (c : VehicleConfig) : StartsUnlike ']' c.write.toList := by
  rw [write, String.toList_ofList]
  exact startsUnlike_writeObject _

theorem parse_write {c : VehicleConfig} (h : IsWhole c.maxSpeed) : parse c.write = .ok c :=
  mapError_document (reads_write h) (isElement_self _)

theorem parseList_write {cs : List VehicleConfig} (h : ∀ c ∈ cs, IsWhole c.maxSpeed) :
    parseList (listText (cs.map write)) = .ok cs :=
  mapError_document_list
    (List.forall₂_same.2 fun c hc => ⟨c.startsUnlike_write, reads_write (h c hc)⟩)

end VehicleConfig

end Vehicles

section Requests

namespace Hints

theorem reads_write (h : Hints) : reader.Reads h.write.toList h := by
  have hfills : Fills record.fields record.blank
      [("weighting", writeText h.weighting), ("vehicle", writeText h.vehicle)]
      ⟨some h.weighting, some h.vehicle⟩ := by
    refine .cons rfl rfl ((Reader.Reads.text (isText_writeText h.weighting)).fill _ _ _ _) ?_
    exact .cons rfl rfl ((Reader.Reads.text (isText_writeText h.vehicle)).fill _ _ _ _) (.nil _)
  rw [write, String.toList_ofList]
  exact hfills.reads_record rfl

theorem parse_write (h : Hints) : parse h.write = .ok h :=
  mapError_document h.reads_write (isElement_self _)

end Hints

end Requests

/-- Configuration survives being written and read. -/
theorem configuration_round_trip :
    (∀ p : Profile, (∀ x ∈ p.uTurnCosts, IsWhole x) → Profile.parse p.write = .ok p) ∧
    (∀ (p : Profile) (x : Float), p.uTurnCosts = some x → x.isFinite = false →
      Profile.parse p.write = .ok { p with uTurnCosts := none }) ∧
    (∀ ps : List Profile, (∀ p ∈ ps, ∀ x ∈ p.uTurnCosts, IsWhole x) →
      Profile.parseList (listText (ps.map Profile.write)) = .ok ps) ∧
    (∀ c : VehicleConfig, IsWhole c.maxSpeed → VehicleConfig.parse c.write = .ok c) ∧
    (∀ cs : List VehicleConfig, (∀ c ∈ cs, IsWhole c.maxSpeed) →
      VehicleConfig.parseList (listText (cs.map VehicleConfig.write)) = .ok cs) ∧
    ∀ h : Hints, Hints.parse h.write = .ok h := by
  refine ⟨?profile, ?infinite, ?profiles, ?vehicle, ?vehicles, ?hints⟩
  case profile => exact fun p hp => Profile.parse_write (.same hp)
  case infinite => exact fun p x hx hinf => Profile.parse_write (.dropped hx hinf)
  case profiles =>
    exact fun ps hps => Profile.parseList_write (List.forall₂_same.2 fun p hp => .same (hps p hp))
  case vehicle => exact fun c hc => VehicleConfig.parse_write hc
  case vehicles => exact fun cs hcs => VehicleConfig.parseList_write hcs
  case hints => exact Hints.parse_write

theorem isWhole_negative_zero : IsWhole (-0) := by
  have h : Binary.ofFloat (-0) = .finite true 0 0 := by decide
  refine ⟨0, ?_, by norm_num⟩
  rw [exactValue?, h]
  simp [Binary.value?]

theorem isWhole_fifteen_nines : IsWhole 999999999999999 := by
  have h : Binary.ofFloat 999999999999999 = .finite false (999999999999999 * 8) (-3) := by decide
  refine ⟨999999999999999, ?_, by norm_num⟩
  rw [exactValue?, h]
  norm_num [Binary.value?]

theorem configuration_round_trip_of_escaped_names :
    let p : Profile := ⟨"a \"b\" \\ c/\n\t\x01\x1f\x7f", "Größe 😀", "", true, some (-0)⟩
    let c : VehicleConfig := ⟨"\x00\r𝄞", 999999999999999⟩
    let h : Hints := ⟨"", "\"\\"⟩
    Profile.parse p.write = .ok p ∧
      Profile.parse { p with uTurnCosts := some (0 / 0) }.write =
        .ok { p with uTurnCosts := none } ∧
      Profile.parseList (listText ([p, { p with name := "" }].map Profile.write)) =
        .ok [p, { p with name := "" }] ∧
      VehicleConfig.parse c.write = .ok c ∧
      VehicleConfig.parseList (listText ([c, c].map VehicleConfig.write)) = .ok [c, c] ∧
      Hints.parse h.write = .ok h := by
  intro p c h
  have hzero : ∀ x ∈ p.uTurnCosts, IsWhole x := by
    rintro x ⟨rfl⟩
    exact isWhole_negative_zero
  obtain ⟨profile, infinite, profiles, vehicle, vehicles, hints⟩ := configuration_round_trip
  refine ⟨profile p hzero, ?_, profiles _ ?_, vehicle c isWhole_fifteen_nines, vehicles _ ?_,
    hints h⟩
  · exact infinite { p with uTurnCosts := some (0 / 0) } (0 / 0) rfl (by decide)
  · simp only [List.forall_mem_cons, List.not_mem_nil, false_implies, implies_true, and_true]
    exact ⟨hzero, hzero⟩
  · simp only [List.forall_mem_cons, List.not_mem_nil, false_implies, implies_true, and_true]
    exact ⟨isWhole_fifteen_nines, isWhole_fifteen_nines⟩

end RoutingCosts
