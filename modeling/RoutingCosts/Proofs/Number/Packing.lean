import Mathlib

-- No smaller part of the library has the lemmas on the parts of a packed double.

set_option autoImplicit false

open Float.Model Float.Model.UnpackedFloat

namespace RoutingCosts

/-- The mantissa fills its places, or the exponent is the least one. -/
structure Canonical (m : ℕ) (e : ℤ) : Prop where
  small : m < 2 ^ 53
  least : -1074 ≤ e
  full : e = -1074 ∨ 2 ^ 52 ≤ m

section Packing

variable {s : Sign} {m : ℕ} {e : ℤ}

theorem exponentBias_binary64 : Format.exponentBias Format.binary64 = 1023 := rfl

theorem toNat_one_append (v : BitVec 52) : (1#1 ++ v).toNat = 2 ^ 52 + v.toNat := by
  rw [BitVec.toNat_append, ← Nat.shiftLeft_add_eq_or_of_lt v.isLt]
  rfl

theorem unpack_packComponents_normal {b : ℕ} (hb : 0 < b) (hb' : b < 2047) (hm : 2 ^ 52 ≤ m)
    (hm' : m < 2 ^ 53) :
    UnpackedFloat.unpack Format.binary64
        (packComponents Format.binary64 s (BitVec.ofNat 11 b) (BitVec.ofNat 52 m)) =
      .finite s m (b - 1075) (by omega) := by
  have hb₀ : (BitVec.ofNat 11 b).toNat = b := by
    rw [BitVec.toNat_ofNat]
    omega
  have hzero : BitVec.ofNat 11 b ≠ 0#11 := by
    intro h
    have hk := congrArg BitVec.toNat h
    rw [hb₀, BitVec.toNat_zero] at hk
    omega
  have hones : BitVec.ofNat 11 b ≠ -1#11 := by
    intro h
    have hk := congrArg BitVec.toNat h
    have hv : (-1#11 : BitVec 11).toNat = 2047 := by decide
    rw [hb₀, hv] at hk
    omega
  have hmant : (1#1 ++ BitVec.ofNat 52 m).toNat = m := by
    rw [toNat_one_append, BitVec.toNat_ofNat]
    omega
  simp only [UnpackedFloat.unpack, unpackMantissa_packComponents, unpackExponent_packComponents,
    unpackSign_packComponents, Sign.ofBitVec_toBitVec, hones, hzero, if_false, hmant, hb₀,
    exponentBias_binary64]
  congr 1

theorem unpack_packComponents_subnormal (hm : 0 < m) (hm' : m < 2 ^ 52) :
    UnpackedFloat.unpack Format.binary64
        (packComponents Format.binary64 s 0#11 (BitVec.ofNat 52 m)) =
      .finite s m (-1074) hm := by
  have hm₀ : (BitVec.ofNat 52 m).toNat = m := by
    rw [BitVec.toNat_ofNat]
    omega
  have hzero : BitVec.ofNat 52 m ≠ 0#52 := by
    intro h
    have hk := congrArg BitVec.toNat h
    rw [hm₀, BitVec.toNat_zero] at hk
    omega
  have hones : (0#11 : BitVec 11) ≠ -1#11 := by decide
  simp only [UnpackedFloat.unpack, unpackMantissa_packComponents, unpackExponent_packComponents,
    unpackSign_packComponents, Sign.ofBitVec_toBitVec, hones, hzero, if_false, if_true, dite_false,
    hm₀, exponentBias_binary64]
  rfl

theorem pack_finite_eq (hm : 0 < m) :
    UnpackedFloat.pack Format.binary64 (.finite s m e hm) =
      if 2 ^ 11 ≤ (e + 1075).toNat + 1 then packedInfinity Format.binary64 s
      else if m.log2 + 1 = 53 then
        packComponents Format.binary64 s (BitVec.ofNat 11 (e + 1075).toNat) (BitVec.ofNat 52 m)
      else packComponents Format.binary64 s 0#11 (BitVec.ofNat 52 m) := by
  have hsum : e + ((1023 : ℕ) : ℤ) + ((52 : ℕ) : ℤ) = e + 1075 := by omega
  simp only [UnpackedFloat.pack, exponentBias_binary64, hsum]
  rfl

theorem unpack_pack_finite (h : Canonical m e) (he : e ≤ 971) (hm : 0 < m) :
    (Float.Model.pack (.finite s m e hm)).unpack = .finite s m e hm := by
  have hleast := h.least
  have hfit : ¬ 2 ^ 11 ≤ (e + 1075).toNat + 1 := by omega
  change UnpackedFloat.unpack Format.binary64 (UnpackedFloat.pack Format.binary64 _) = _
  rw [pack_finite_eq, if_neg hfit]
  split
  · rename_i hlog
    have hlo : 2 ^ 52 ≤ m := (Nat.le_log2 hm.ne').1 (by omega)
    rw [unpack_packComponents_normal (by omega) (by omega) hlo h.small]
    congr 1
    omega
  · rename_i hlog
    have hlo : m < 2 ^ 52 := by
      by_contra hge
      have h₁ : 52 ≤ m.log2 := (Nat.le_log2 hm.ne').2 (by omega)
      have h₂ : m.log2 < 53 := (Nat.log2_lt hm.ne').2 h.small
      omega
    have he' : e = -1074 := h.full.resolve_right (by omega)
    rw [unpack_packComponents_subnormal hm hlo]
    subst he'
    rfl

end Packing

theorem canonical_of_unpack {b : BitVec 64} {s : Sign} {m : ℕ} {e : ℤ} {hm : 0 < m}
    (h : UnpackedFloat.unpack Format.binary64 b = .finite s m e hm) : Canonical m e ∧ e ≤ 971 := by
  let exponent : BitVec 11 := @unpackExponent Format.binary64 b
  let mantissa : BitVec 52 := @unpackMantissa Format.binary64 b
  have hones : (-1#11 : BitVec 11).toNat = 2047 := by decide
  have hexp : exponent.toNat < 2048 := exponent.isLt
  have hmant : mantissa.toNat < 2 ^ 52 := mantissa.isLt
  simp only [UnpackedFloat.unpack, exponentBias_binary64] at h
  split_ifs at h with h₁ h₂ h₂ h₃
  · injection h with _ hm₁ he₁
    change mantissa.toNat = m at hm₁
    change (exponent.toNat : ℤ) - (1023 + 52) + 1 = e at he₁
    have hz : exponent.toNat = 0 := congrArg BitVec.toNat h₂
    exact ⟨⟨by omega, by omega, .inl (by omega)⟩, by omega⟩
  · injection h with _ hm₁ he₁
    change (1#1 ++ mantissa).toNat = m at hm₁
    change (exponent.toNat : ℤ) - (1023 + 52) = e at he₁
    rw [toNat_one_append] at hm₁
    have hz : exponent.toNat ≠ 0 := fun hk => h₂ (BitVec.eq_of_toNat_eq hk)
    have ho : exponent.toNat ≠ 2047 := fun hk => h₁ (BitVec.eq_of_toNat_eq (hk.trans hones.symm))
    exact ⟨⟨by omega, by omega, .inr (by omega)⟩, by omega⟩

theorem pack_unpack_toModel (x : Float) : .ofModel (Float.Model.pack x.toModel.unpack) = x :=
  Float.ofBits_toBits x

theorem add_of_negative_zero {z : Float} (hz : z.toModel.unpack = .zero .negative) (x : Float) :
    z + x = x := by
  have hadd : UnpackedFloat.add Format.binary64 (.zero .negative) x.toModel.unpack =
      x.toModel.unpack := by
    cases x.toModel.unpack with
    | notANumber => rfl
    | infinity s => rfl
    | zero s => cases s <;> rfl
    | finite s m e hm => rfl
  change Float.ofModel (Float.Model.pack
    (UnpackedFloat.add Format.binary64 z.toModel.unpack x.toModel.unpack)) = x
  rw [hz, hadd, pack_unpack_toModel]

end RoutingCosts
