import Mathlib.Algebra.Ring.Nat
import RoutingCosts.Weighting.Basic

set_option autoImplicit false

namespace RoutingCosts

theorem toNat_ofNatClamp (n : Nat) : (UInt64.ofNatClamp n).toNat = min n (2 ^ 64 - 1) := by
  rcases Nat.lt_or_ge n UInt64.size with h | h
  · have hn : n < 2 ^ 64 := h
    rw [UInt64.toNat_ofNatClamp_of_lt h]
    omega
  · have hn : 2 ^ 64 ≤ n := h
    have hm : UInt64.size - 1 = 2 ^ 64 - 1 := rfl
    rw [UInt64.toNat_ofNatClamp_of_le h, hm]
    omega

theorem saturatingAdd_eq (a b : UInt64) :
    saturatingAdd a b = .ofNatClamp (a.toNat + b.toNat) := rfl

theorem saturatingAdd_ofNatClamp (m n : Nat) :
    saturatingAdd (.ofNatClamp m) (.ofNatClamp n) = .ofNatClamp (m + n) := by
  apply UInt64.toNat_inj.1
  simp only [saturatingAdd_eq, toNat_ofNatClamp]
  omega

theorem le_saturatingAdd_left (a b : UInt64) : a ≤ saturatingAdd a b := by
  have hmax := a.toNat_lt
  rw [UInt64.le_iff_toNat_le, saturatingAdd_eq, toNat_ofNatClamp]
  omega

theorem le_saturatingAdd_right (a b : UInt64) : b ≤ saturatingAdd a b := by
  have hmax := b.toNat_lt
  rw [UInt64.le_iff_toNat_le, saturatingAdd_eq, toNat_ofNatClamp]
  omega

def saturatingSum (ts : List UInt64) : UInt64 := ts.foldl saturatingAdd 0

private theorem foldl_saturatingAdd (ts : List UInt64) (n : Nat) :
    ts.foldl saturatingAdd (.ofNatClamp n) = .ofNatClamp (n + (ts.map UInt64.toNat).sum) := by
  induction ts generalizing n with
  | nil => rfl
  | cons t ts ih =>
    have ht : saturatingAdd (.ofNatClamp n) t = .ofNatClamp (n + t.toNat) := by
      simpa using saturatingAdd_ofNatClamp n t.toNat
    rw [List.foldl_cons, ht, ih, List.map_cons, List.sum_cons, Nat.add_assoc]

theorem saturatingSum_eq (ts : List UInt64) :
    saturatingSum ts = .ofNatClamp (ts.map UInt64.toNat).sum := by
  have h := foldl_saturatingAdd ts 0
  rwa [Nat.zero_add] at h

theorem saturatingSum_perm {ts us : List UInt64} (h : ts.Perm us) :
    saturatingSum ts = saturatingSum us := by
  rw [saturatingSum_eq, saturatingSum_eq, (h.map UInt64.toNat).sum_nat]

theorem saturatingSum_cons (t : UInt64) (ts : List UInt64) :
    saturatingSum (t :: ts) = saturatingAdd t (saturatingSum ts) := by
  rw [saturatingSum_eq, saturatingSum_eq, ← UInt64.ofNatClamp_toNat t, saturatingAdd_ofNatClamp,
    UInt64.ofNatClamp_toNat, List.map_cons, List.sum_cons]

theorem saturatingSum_map_ofNatClamp {α : Type} (f : α → Nat) (xs : List α) :
    saturatingSum (xs.map fun x => .ofNatClamp (f x)) = .ofNatClamp (xs.map f).sum := by
  induction xs with
  | nil => rfl
  | cons x xs ih =>
    rw [List.map_cons, saturatingSum_cons, ih, saturatingAdd_ofNatClamp, List.map_cons,
      List.sum_cons]

end RoutingCosts
