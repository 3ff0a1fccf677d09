import RoutingCosts.Profile
import RoutingCosts.Proofs.Text.LowerCase
import RoutingCosts.Proofs.Text.SettledCase

set_option autoImplicit false

namespace RoutingCosts

theorem fileToken_append (s t : String) :
    fileToken (s ++ "|" ++ t) = fileToken s ++ "_" ++ fileToken t := by
  apply String.toList_injective
  simp [fileToken, Text.separates_bar.lowerCase_append]

section Normal

open Text

theorem bar_notMem_fileToken (text : String) : '|' ∉ (fileToken text).toList := by
  intro h
  rw [fileToken, String.toList_ofList, List.mem_map] at h
  obtain ⟨c, -, hc⟩ := h
  split at hc
  · exact absurd hc (by decide)
  · rename_i hne
    exact hne hc

theorem isSettled_of_mem_fileToken {text : String} {c : Char} (h : c ∈ (fileToken text).toList) :
    IsSettled c := by
  rw [fileToken, String.toList_ofList, List.mem_map] at h
  obtain ⟨d, hd, rfl⟩ := h
  have hline : IsSettled '_' := by decide +kernel
  split
  · exact hline
  · exact isSettled_of_mem_lowerCase hd

theorem lowerCase_fileToken (text : String) :
    lowerCase (fileToken text).toList = (fileToken text).toList :=
  lowerCase_eq_self fun _ => isSettled_of_mem_fileToken

theorem fileToken_fileToken (text : String) : fileToken (fileToken text) = fileToken text := by
  have hkept : ∀ c ∈ (fileToken text).toList, (if c = '|' then '_' else c) = id c := by
    intro c hc
    have hne : c ≠ '|' := by
      rintro rfl
      exact bar_notMem_fileToken text hc
    rw [if_neg hne, id]
  apply String.toList_injective
  calc
    (fileToken (fileToken text)).toList =
        (lowerCase (fileToken text).toList).map fun c => if c = '|' then '_' else c :=
      String.toList_ofList
    _ = (fileToken text).toList := by
      rw [lowerCase_fileToken, List.map_congr_left hkept, List.map_id]

end Normal

namespace CostModel

theorem fileToken_name (model : CostModel) : fileToken model.name = model.name := by
  cases model <;> decide +kernel

theorem name_append_eq_iff {model model' : CostModel} {s t : String} :
    model.name ++ s = model'.name ++ t ↔ model.name = model'.name ∧ s = t := by
  constructor
  · intro h
    obtain rfl : model = model' := by
      have hchars := congrArg String.toList h
      cases model <;> cases model' <;> first | rfl | simp [name] at hchars
    exact ⟨rfl, (String.append_right_inj model.name).1 h⟩
  · rintro ⟨hname, rfl⟩
    rw [hname]

end CostModel

namespace Key

theorem fileName_eq (k : Key) : k.fileName = fileToken k.name ++ "_" ++ fileToken k.vehicle :=
  fileToken_append k.name k.vehicle

/-- The keys differ in nothing that the name of a file keeps. -/
structure SharesFile (k l : Key) : Prop where
  name : k.name = l.name
  vehicle : fileToken k.vehicle = fileToken l.vehicle

theorem fileName_eq_iff_of_models {model model' : CostModel} {vehicle vehicle' : String} :
    fileName ⟨model.name, vehicle⟩ = fileName ⟨model'.name, vehicle'⟩ ↔
      SharesFile ⟨model.name, vehicle⟩ ⟨model'.name, vehicle'⟩ := by
  simp only [fileName_eq, CostModel.fileToken_name, String.append_assoc,
    CostModel.name_append_eq_iff, String.append_right_inj]
  exact ⟨fun h => ⟨h.1, h.2⟩, fun h => ⟨h.name, h.vehicle⟩⟩

end Key

/-- The name of a file is as plain as names of files get: whatever the vehicle is called, no
    separator is left in it, lower case leaves it alone, and so does making a name of a file of
    it. -/
theorem Key.fileName_stays (k : Key) :
    '|' ∉ k.fileName.toList ∧ Text.lowerCase k.fileName.toList = k.fileName.toList ∧
      fileToken k.fileName = k.fileName := by
  rw [Key.fileName]
  exact ⟨bar_notMem_fileToken k.canonical, lowerCase_fileToken k.canonical,
    fileToken_fileToken k.canonical⟩

example : Key.fileName ⟨"fastest", "ΑΣ|ΑΣ.Α İ"⟩ = "fastest_ας_ασ.α i̇" := by decide +kernel

/-- Two weightings of a list of profiles share the name of a file, and with it the name of the file
    with their contraction hierarchy, exactly if they have one cost model and their vehicles are
    called the same but for upper case and separators. -/
theorem fileName_eq_iff_sharesFile (registry : Registry) (table : TurnTable) (ps : List Profile)
    (ws : List PlainWeighting) (h : Profile.plainWeightings ps registry table = .ok ws)
    (w x : PlainWeighting) (hw : w ∈ ws) (hx : x ∈ ws) :
    ((Weighting.plain w).fileName = (Weighting.plain x).fileName ↔
        w.basis.key.SharesFile x.basis.key) ∧
      ((Weighting.plain w).hierarchyFileName = (Weighting.plain x).hierarchyFileName ↔
        w.basis.key.SharesFile x.basis.key) := by
  obtain ⟨p, _, hp⟩ := Profile.exists_of_mem_plainWeightings h hw
  obtain ⟨q, _, hq⟩ := Profile.exists_of_mem_plainWeightings h hx
  have hfile : (Weighting.plain w).fileName = (Weighting.plain x).fileName ↔
      w.basis.key.SharesFile x.basis.key := by
    change w.basis.key.fileName = x.basis.key.fileName ↔ _
    rw [Profile.key_of_plainWeighting hp, Profile.key_of_plainWeighting hq]
    exact Key.fileName_eq_iff_of_models
  refine ⟨hfile, ?_⟩
  rw [Weighting.hierarchyFileName, Weighting.hierarchyFileName, String.append_right_inj, hfile]

theorem fileName_eq_iff_sharesFile_of_two_bikes :
    let bike : Vehicle := ⟨"E|Bike", ⟨25⟩, true⟩
    let mountainBike : Vehicle := ⟨"e_bike", ⟨30⟩, true⟩
    let w : PlainWeighting := ⟨.fastest, ⟨⟨"fastest", "E|Bike"⟩, bike, .free⟩⟩
    let x : PlainWeighting := ⟨.fastest, ⟨⟨"fastest", "e_bike"⟩, mountainBike, .free⟩⟩
    ((Weighting.plain w).fileName = (Weighting.plain x).fileName ↔
        w.basis.key.SharesFile x.basis.key) ∧
      ((Weighting.plain w).hierarchyFileName = (Weighting.plain x).hierarchyFileName ↔
        w.basis.key.SharesFile x.basis.key) := by
  intro bike mountainBike w x
  exact fileName_eq_iff_sharesFile ⟨[bike, mountainBike]⟩ .empty
    [⟨"a", "E|Bike", "fastest", false, none⟩, ⟨"b", "e_bike", "fastest", false, none⟩] [w, x] rfl
    w x (by simp) (by simp)

/-- Different keys do not keep files apart: a registry may hold two vehicles whose names differ in
    upper case alone. -/
theorem files_shared_under_different_keys :
    ¬ ∀ (vs : List Vehicle) (registry : Registry) (table : TurnTable) (ps : List Profile)
      (ws : List PlainWeighting), Registry.ofVehicles vs = .ok registry →
      Profile.plainWeightings ps registry table = .ok ws →
      ∀ w ∈ ws, ∀ x ∈ ws, w.basis.key ≠ x.basis.key →
        (Weighting.plain w).fileName ≠ (Weighting.plain x).fileName ∧
          (Weighting.plain w).hierarchyFileName ≠ (Weighting.plain x).hierarchyFileName := by
  intro h
  let w : PlainWeighting := ⟨.fastest, ⟨⟨"fastest", "car"⟩, ⟨"car", ⟨120⟩, true⟩, .free⟩⟩
  let x : PlainWeighting := ⟨.fastest, ⟨⟨"fastest", "Car"⟩, ⟨"Car", ⟨100⟩, true⟩, .free⟩⟩
  have hdiffer : w.basis.key ≠ x.basis.key := by decide
  have hshared : (Weighting.plain w).fileName = (Weighting.plain x).fileName := by decide +kernel
  have happart := h [.new "car" ⟨120⟩, .new "Car" ⟨100⟩] ⟨[w.basis.vehicle, x.basis.vehicle]⟩ .empty
    [⟨"a", "car", "fastest", false, none⟩, ⟨"b", "Car", "fastest", false, none⟩] [w, x] rfl rfl
    w (by simp) x (by simp) hdiffer
  exact happart.1 hshared

end RoutingCosts
