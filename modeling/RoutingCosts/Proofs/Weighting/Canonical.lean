import RoutingCosts.Weighting.Key

set_option autoImplicit false

namespace RoutingCosts

theorem append_cons_eq_append_cons_iff {α : Type} {x : α} {as bs cs ds : List α} :
    as ++ x :: bs = cs ++ x :: ds ↔
      (as = cs ∧ bs = ds) ∨ (∃ ms, cs = as ++ x :: ms ∧ bs = ms ++ x :: ds) ∨
        ∃ ms, as = cs ++ x :: ms ∧ ds = ms ++ x :: bs := by
  constructor
  · intro h
    rcases List.append_eq_append_iff.1 h with ⟨ms, rfl, hrest⟩ | ⟨ms, rfl, hrest⟩
    · rcases List.cons_eq_append_iff.1 hrest with ⟨rfl, htail⟩ | ⟨ms, rfl, htail⟩
      · exact .inl ⟨(List.append_nil as).symm, (List.cons.inj htail).2.symm⟩
      · exact .inr (.inl ⟨ms, rfl, htail⟩)
    · rcases List.cons_eq_append_iff.1 hrest with ⟨rfl, htail⟩ | ⟨ms, rfl, htail⟩
      · exact .inl ⟨List.append_nil cs, (List.cons.inj htail).2⟩
      · exact .inr (.inr ⟨ms, rfl, htail⟩)
  · rintro (⟨rfl, rfl⟩ | ⟨ms, rfl, rfl⟩ | ⟨ms, rfl, rfl⟩)
    · rfl
    · rw [List.append_assoc, List.cons_append]
    · rw [List.append_assoc, List.cons_append]

theorem toList_append_bar (s t : String) :
    (s ++ "|" ++ t).toList = s.toList ++ '|' :: t.toList := by
  simp

namespace Key

variable {k l : Key}

theorem eq_iff : k = l ↔ k.name = l.name ∧ k.vehicle = l.vehicle := by
  obtain ⟨name, vehicle⟩ := k
  obtain ⟨name', vehicle'⟩ := l
  rw [Key.mk.injEq]

theorem toList_canonical (k : Key) :
    k.canonical.toList = k.name.toList ++ '|' :: k.vehicle.toList :=
  toList_append_bar k.name k.vehicle

def bars (k : Key) : Nat := k.name.toList.count '|'

/-- The name of the cost model of `k` ends at a bar inside that of `l`, and the vehicle of `k` is
    called by all that follows. -/
def EndsInside (k l : Key) : Prop :=
  ∃ between : String,
    l.name = k.name ++ "|" ++ between ∧ k.vehicle = between ++ "|" ++ l.vehicle

theorem endsInside_iff : k.EndsInside l ↔
    ∃ ms, l.name.toList = k.name.toList ++ '|' :: ms ∧
      k.vehicle.toList = ms ++ '|' :: l.vehicle.toList := by
  constructor
  · rintro ⟨between, hname, hvehicle⟩
    refine ⟨between.toList, ?_, ?_⟩
    · rw [hname, toList_append_bar]
    · rw [hvehicle, toList_append_bar]
  · rintro ⟨ms, hname, hvehicle⟩
    refine ⟨.ofList ms, String.toList_injective ?_, String.toList_injective ?_⟩
    · rw [hname, toList_append_bar, String.toList_ofList]
    · rw [hvehicle, toList_append_bar, String.toList_ofList]

theorem EndsInside.bars_lt (h : k.EndsInside l) : k.bars < l.bars := by
  obtain ⟨ms, hname, -⟩ := endsInside_iff.1 h
  rw [bars, bars, hname, List.count_append, List.count_cons_self]
  omega

theorem canonical_eq_iff :
    k.canonical = l.canonical ↔ k = l ∨ k.EndsInside l ∨ l.EndsInside k := by
  rw [← String.toList_inj, toList_canonical, toList_canonical, append_cons_eq_append_cons_iff,
    endsInside_iff, endsInside_iff, String.toList_inj, String.toList_inj, eq_iff]

theorem bars_ne_of_endsInside (h : k.EndsInside l ∨ l.EndsInside k) : k.bars ≠ l.bars := by
  rcases h with h | h
  · exact Nat.ne_of_lt h.bars_lt
  · exact Nat.ne_of_gt h.bars_lt

/-- The number of bars says which bar of the text is the one between the names. -/
theorem eq_of_canonical_eq (hbars : k.bars = l.bars) (h : k.canonical = l.canonical) : k = l :=
  (canonical_eq_iff.1 h).resolve_right fun hinside => bars_ne_of_endsInside hinside hbars

/-- Neither the text nor the number of bars alone tells keys apart, but both together do. Different
    keys have one text exactly if one of them ends its first name inside that of the other. This is
    so for all names, whether they are valid or not. -/
theorem eq_iff_canonical_and_bars (k l : Key) :
    (k = l ↔ k.canonical = l.canonical ∧ k.bars = l.bars) ∧
      (k ≠ l ∧ k.canonical = l.canonical ↔ k.EndsInside l ∨ l.EndsInside k) := by
  constructor
  · constructor
    · rintro rfl
      exact ⟨rfl, rfl⟩
    · rintro ⟨h, hbars⟩
      exact eq_of_canonical_eq hbars h
  · constructor
    · rintro ⟨hkl, h⟩
      exact (canonical_eq_iff.1 h).resolve_left hkl
    · intro h
      exact ⟨fun hkl => bars_ne_of_endsInside h (congrArg bars hkl), canonical_eq_iff.2 (.inr h)⟩

/-- The canonical text alone does not tell keys with valid names apart. -/
theorem canonical_shared_by_different_keys :
    ¬ ∀ (name name' vehicle vehicle' : String) (k l : Key), new name vehicle = .ok k →
      new name' vehicle' = .ok l → (k = l ↔ k.canonical = l.canonical) := by
  intro h
  have hiff := h "fastest" "fastest|car" "car|trailer" "trailer" ⟨"fastest", "car|trailer"⟩
    ⟨"fastest|car", "trailer"⟩ rfl rfl
  exact absurd (hiff.2 rfl) (by decide)

end Key

end RoutingCosts
