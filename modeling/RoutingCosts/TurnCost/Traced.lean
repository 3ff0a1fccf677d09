import RoutingCosts.Graph.Basic

set_option autoImplicit false

namespace RoutingCosts

inductive Quantity where
  | weight
  | time
deriving DecidableEq, Repr

structure Question where
  source : Nat
  quantity : Quantity
  turn : Turn
deriving DecidableEq, Repr

structure Traced (α : Type) where
  value : α
  asked : List Question
deriving DecidableEq

namespace Traced

variable {α β : Type}

protected def pure (a : α) : Traced α := ⟨a, []⟩

protected def bind (x : Traced α) (f : α → Traced β) : Traced β :=
  ⟨(f x.value).value, x.asked ++ (f x.value).asked⟩

instance : Monad Traced where
  pure := Traced.pure
  bind := Traced.bind

@[simp] theorem value_pure (a : α) : (pure a : Traced α).value = a := rfl

@[simp] theorem asked_pure (a : α) : (pure a : Traced α).asked = [] := rfl

@[simp] theorem value_bind (x : Traced α) (f : α → Traced β) :
    (x >>= f).value = (f x.value).value := rfl

@[simp] theorem asked_bind (x : Traced α) (f : α → Traced β) :
    (x >>= f).asked = x.asked ++ (f x.value).asked := rfl

@[simp] theorem value_map (f : α → β) (x : Traced α) : (f <$> x).value = f x.value := rfl

@[simp] theorem asked_map (f : α → β) (x : Traced α) : (f <$> x).asked = x.asked :=
  List.append_nil x.asked

theorem ext {x y : Traced α} (hv : x.value = y.value) (ha : x.asked = y.asked) : x = y := by
  cases x
  cases y
  simp_all

instance : LawfulMonad Traced :=
  LawfulMonad.mk' Traced (fun x => ext rfl (asked_map id x))
    (fun _ _ => rfl) (fun x f g => ext rfl (List.append_assoc ..))

end Traced

end RoutingCosts
