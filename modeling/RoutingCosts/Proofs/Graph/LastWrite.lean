import Mathlib.Data.List.Induction
import RoutingCosts.Proofs.Graph.Writes

set_option autoImplicit false

namespace RoutingCosts

namespace PropertyMap

inductive Kind where
  | flag
  | number
deriving DecidableEq

inductive Value where
  | flag (value : Bool)
  | number (value : Float)
deriving DecidableEq

structure Slot where
  kind : Kind
  property : Property
  direction : Direction
deriving DecidableEq

def Slot.opposite (s : Slot) : Slot := { s with direction := s.direction.opposite }

namespace Write

def slot : Write → Slot
  | .flag p d _ => ⟨.flag, p, d⟩
  | .number p d _ => ⟨.number, p, d⟩

def value : Write → Value
  | .flag _ _ b => .flag b
  | .number _ _ x => .number x

end Write

def read (m : PropertyMap) : Slot → Option Value
  | ⟨.flag, p, d⟩ => (m.flag? p d).map .flag
  | ⟨.number, p, d⟩ => (m.number? p d).map .number

def reply (m : PropertyMap) : Write → Option Value
  | .flag p d b => (m.replaceFlag p d b).1.map .flag
  | .number p d x => (m.replaceNumber p d x).1.map .number

def replies (m : PropertyMap) : List Write → List (Option Value)
  | [] => []
  | w :: writes => m.reply w :: (m.write w).replies writes

def lastIn? (writes : List Write) (s : Slot) : Option Value :=
  (writes.filter (·.slot = s)).getLast?.map Write.value

structure HasSingleEntries (m : PropertyMap) : Prop where
  forwardFlags : m.forwardFlags.keys.Nodup
  backwardFlags : m.backwardFlags.keys.Nodup
  forwardNumbers : m.forwardNumbers.keys.Nodup
  backwardNumbers : m.backwardNumbers.keys.Nodup

/-- Nothing tells two maps apart, however one goes on to write and to read. -/
structure Alike (m n : PropertyMap) : Prop where
  replies : ∀ writes, m.replies writes = n.replies writes
  reads : ∀ writes s, (m.writeAll writes).read s = (n.writeAll writes).read s

structure Commute (m : PropertyMap) (w x : Write) : Prop where
  first : (m.write x).reply w = m.reply w
  second : (m.write w).reply x = m.reply x
  after : ((m.write w).write x).Alike ((m.write x).write w)

section Step

variable (m : PropertyMap) (w : Write) (s : Slot)

theorem reply_eq_read : m.reply w = m.read w.slot := by cases w <;> rfl

theorem read_write :
    (m.write w).read s = if w.slot = s then some w.value else m.read s := by
  obtain ⟨kind, p, d⟩ := s
  cases w with
  | flag q e b =>
    cases kind with
    | flag =>
      by_cases h : q = p ∧ e = d <;> simp [write, replaceFlag, read, Write.slot, Write.value, h]
    | number => simp [write, replaceFlag, read, Write.slot]
  | number q e x =>
    cases kind with
    | flag => simp [write, replaceNumber, read, Write.slot]
    | number =>
      by_cases h : q = p ∧ e = d <;> simp [write, replaceNumber, read, Write.slot, Write.value, h]

variable {m} in
theorem HasSingleEntries.write (h : m.HasSingleEntries) : (m.write w).HasSingleEntries := by
  cases w with
  | flag p d b =>
    cases d with
    | forward => exact { h with forwardFlags := Assoc.nodup_keys_insert h.forwardFlags p b }
    | backward => exact { h with backwardFlags := Assoc.nodup_keys_insert h.backwardFlags p b }
  | number p d x =>
    cases d with
    | forward => exact { h with forwardNumbers := Assoc.nodup_keys_insert h.forwardNumbers p x }
    | backward => exact { h with backwardNumbers := Assoc.nodup_keys_insert h.backwardNumbers p x }

end Step

section Run

variable {m n : PropertyMap} {w x : Write} {s : Slot}

theorem writeAll_concat (m : PropertyMap) (writes : List Write) (w : Write) :
    m.writeAll (writes ++ [w]) = (m.writeAll writes).write w := by
  simp [writeAll]

theorem lastIn?_concat (writes : List Write) (w : Write) (s : Slot) :
    lastIn? (writes ++ [w]) s = if w.slot = s then some w.value else lastIn? writes s := by
  by_cases h : w.slot = s <;> simp [lastIn?, h]

theorem read_writeAll_empty (writes : List Write) (s : Slot) :
    (empty.writeAll writes).read s = lastIn? writes s := by
  induction writes using List.reverseRecOn with
  | nil => obtain ⟨kind, p, d⟩ := s; cases kind <;> cases d <;> rfl
  | append_singleton writes w ih => rw [writeAll_concat, read_write, lastIn?_concat, ih]

theorem hasSingleEntries_writeAll_empty (writes : List Write) :
    (empty.writeAll writes).HasSingleEntries := by
  induction writes using List.reverseRecOn with
  | nil => exact ⟨List.nodup_nil, List.nodup_nil, List.nodup_nil, List.nodup_nil⟩
  | append_singleton writes w ih =>
    rw [writeAll_concat]
    exact ih.write w

theorem getElem?_replies (m : PropertyMap) (writes : List Write) (i : ℕ) :
    (m.replies writes)[i]? = writes[i]?.map (m.writeAll (writes.take i)).reply := by
  induction writes generalizing m i with
  | nil => rfl
  | cons w writes ih =>
    cases i with
    | zero => rfl
    | succ i => exact ih (m.write w) i

theorem alike_of_read_eq (h : ∀ s, m.read s = n.read s) : m.Alike n := by
  have hwrite : ∀ {m n : PropertyMap} (w : Write), (∀ s, m.read s = n.read s) →
      ∀ s, (m.write w).read s = (n.write w).read s := fun w h s => by
    rw [read_write, read_write, h]
  constructor
  · intro writes
    induction writes generalizing m n with
    | nil => rfl
    | cons w writes ih =>
      rw [replies, replies, reply_eq_read, reply_eq_read, h, ih (hwrite w h)]
  · intro writes
    induction writes generalizing m n with
    | nil => exact h
    | cons w writes ih => exact ih (hwrite w h)

theorem commute_of_slot_ne (m : PropertyMap) (h : w.slot ≠ x.slot) : m.Commute w x where
  first := by rw [reply_eq_read, reply_eq_read, read_write, if_neg h.symm]
  second := by rw [reply_eq_read, reply_eq_read, read_write, if_neg h]
  after := alike_of_read_eq fun s => by
    rw [read_write, read_write, read_write, read_write]
    by_cases hw : w.slot = s
    · have hx : x.slot ≠ s := fun hx => h (hw.trans hx.symm)
      rw [if_neg hx]
      simp [hw]
    · rw [if_neg hw, if_neg hw]

end Run

end PropertyMap

def EdgeView.read (e : EdgeView) : PropertyMap.Slot → Option PropertyMap.Value
  | ⟨.flag, p, d⟩ => (e.flag? p d).map .flag
  | ⟨.number, p, d⟩ => (e.number? p d).map .number

namespace StoredEdge

theorem read_forward (e : StoredEdge) (s : PropertyMap.Slot) :
    e.forward.view.read s = e.properties.read s := by
  obtain ⟨kind, p, d⟩ := s
  cases kind <;> rfl

theorem read_backward (e : StoredEdge) (s : PropertyMap.Slot) :
    e.backward.view.read s = e.properties.read s.opposite := by
  obtain ⟨kind, p, d⟩ := s
  cases kind <;> rfl

end StoredEdge

namespace PropertyMap

/-- A map is as many independent memories as there are slots: each remembers the last write to it,
    and each write gives back the one before. -/
theorem remembers_last_writes (writes : List Write) :
    let m := empty.writeAll writes
    (∀ i : ℕ, (empty.replies writes)[i]? =
        writes[i]?.map fun w => lastIn? (writes.take i) w.slot) ∧
      (∀ s, m.read s = lastIn? writes s) ∧
      (∀ i, (empty.writeAll (writes.take i)).HasSingleEntries) ∧
      (∀ w x : Write, w.slot ≠ x.slot → m.Commute w x) ∧
      ∀ e : StoredEdge, e.properties = m →
        (∀ s, e.forward.view.read s = lastIn? writes s) ∧
          ∀ s, e.backward.view.read s = lastIn? writes s.opposite := by
  intro m
  refine ⟨fun i => ?_, read_writeAll_empty writes, fun i => hasSingleEntries_writeAll_empty _,
    fun w x => m.commute_of_slot_ne, fun e he => ⟨fun s => ?_, fun s => ?_⟩⟩
  · rw [getElem?_replies]
    congr 1
    funext w
    rw [reply_eq_read, read_writeAll_empty]
  · rw [e.read_forward, he, read_writeAll_empty]
  · rw [e.read_backward, he, read_writeAll_empty]

theorem remembers_overwritten_speed :
    let speed := Property.speed "car"
    let writes : List Write := [.number speed .forward 50, .flag speed .forward true,
      .number speed .backward 30, .number speed .forward 70]
    let e : StoredEdge := ⟨3, 1, 2, ⟨100⟩, empty.writeAll writes⟩
    (empty.replies writes)[3]? = some (some (.number 50)) ∧
      e.properties.Commute (.number speed .forward 80) (.number speed .backward 20) ∧
        e.forward.view.read ⟨.number, speed, .forward⟩ = some (.number 70) ∧
          e.backward.view.read ⟨.number, speed, .forward⟩ = some (.number 30) := by
  intro speed writes e
  obtain ⟨hreplies, -, -, hcommute, hedge⟩ := remembers_last_writes writes
  have hread := hedge e rfl
  exact ⟨(hreplies 3).trans (by decide), hcommute _ _ (by decide),
    (hread.1 _).trans (by decide), (hread.2 _).trans (by decide)⟩

end PropertyMap

end RoutingCosts
