set_option autoImplicit false

namespace RoutingCosts

structure Assoc (κ ν : Type) where
  entries : List (κ × ν)

namespace Assoc

variable {κ ν : Type} [DecidableEq κ]

def empty : Assoc κ ν := ⟨[]⟩

def find? (k : κ) : List (κ × ν) → Option ν
  | [] => none
  | (k', v) :: rest => if k' = k then some v else find? k rest

def put (k : κ) (v : ν) : List (κ × ν) → List (κ × ν)
  | [] => [(k, v)]
  | (k', v') :: rest => if k' = k then (k, v) :: rest else (k', v') :: put k v rest

def get? (m : Assoc κ ν) (k : κ) : Option ν := find? k m.entries

def insert (m : Assoc κ ν) (k : κ) (v : ν) : Assoc κ ν := ⟨put k v m.entries⟩

def size (m : Assoc κ ν) : Nat := m.entries.length

def keys (m : Assoc κ ν) : List κ := m.entries.map Prod.fst

@[simp] theorem get?_empty (k : κ) : (empty : Assoc κ ν).get? k = none := rfl

theorem find?_put (k k' : κ) (v : ν) (es : List (κ × ν)) :
    find? k' (put k v es) = if k = k' then some v else find? k' es := by
  induction es with
  | nil => rfl
  | cons e es ih =>
    by_cases hk : e.1 = k
    · by_cases h : k = k'
      · simp [put, find?, hk, h]
      · simp [put, find?, hk, h]
    · by_cases h : e.1 = k'
      · have : k' ≠ k := fun hn => hk (h.trans hn)
        simp [put, find?, h, this, this.symm]
      · simp [put, find?, hk, h, ih]

@[simp] theorem get?_insert (m : Assoc κ ν) (k k' : κ) (v : ν) :
    (m.insert k v).get? k' = if k = k' then some v else m.get? k' :=
  find?_put k k' v m.entries

theorem find?_eq_none_iff {k : κ} {es : List (κ × ν)} :
    find? k es = none ↔ k ∉ es.map Prod.fst := by
  induction es with
  | nil => simp [find?]
  | cons e es ih =>
    by_cases h : e.1 = k
    · simp [find?, h]
    · simp [find?, h, ih, Ne.symm h]

theorem keys_put (k : κ) (v : ν) (es : List (κ × ν)) :
    (put k v es).map Prod.fst =
      if k ∈ es.map Prod.fst then es.map Prod.fst else es.map Prod.fst ++ [k] := by
  induction es with
  | nil => simp [put]
  | cons e es ih =>
    by_cases h : e.1 = k
    · simp [put, h]
    · by_cases hm : k ∈ es.map Prod.fst
      · rw [if_pos hm] at ih
        simp [put, h, ih, List.mem_map.1 hm]
      · rw [if_neg hm] at ih
        have : ¬ ∃ x, (k, x) ∈ es := fun ⟨x, hx⟩ => hm (List.mem_map.2 ⟨(k, x), hx, rfl⟩)
        simp [put, h, ih, this, Ne.symm h]

theorem keys_insert (m : Assoc κ ν) (k : κ) (v : ν) :
    (m.insert k v).keys = if k ∈ m.keys then m.keys else m.keys ++ [k] :=
  keys_put k v m.entries

theorem nodup_keys_insert {m : Assoc κ ν} (h : m.keys.Nodup) (k : κ) (v : ν) :
    (m.insert k v).keys.Nodup := by
  rw [keys_insert]
  split
  · exact h
  · rename_i hk
    exact List.nodup_append.2 ⟨h, by simp, fun a ha b hb => by
      rw [List.mem_singleton.1 hb]
      exact fun hab => hk (hab ▸ ha)⟩

end Assoc

end RoutingCosts
