import RoutingCosts.Graph.StoredEdge

set_option autoImplicit false

namespace RoutingCosts

namespace PropertyMap

inductive Write where
  | flag (property : Property) (direction : Direction) (value : Bool)
  | number (property : Property) (direction : Direction) (value : Float)

def write (m : PropertyMap) : Write → PropertyMap
  | .flag p d b => (m.replaceFlag p d b).2
  | .number p d x => (m.replaceNumber p d x).2

def writeAll (m : PropertyMap) (writes : List Write) : PropertyMap := writes.foldl write m

namespace Write

def SetsFlag (p : Property) : Write → Prop
  | .flag q _ _ => q = p
  | .number _ _ _ => False

def SetsNumber (p : Property) : Write → Prop
  | .flag _ _ _ => False
  | .number q _ _ => q = p

end Write

variable {p : Property} {d : Direction}

theorem flag?_write {m : PropertyMap} {w : Write} (h : ¬ w.SetsFlag p) :
    (m.write w).flag? p d = m.flag? p d := by
  cases w with
  | flag q e b =>
    have hq : ¬ (q = p ∧ e = d) := fun hk => h hk.1
    simp [write, replaceFlag, hq]
  | number q e x => simp [write, replaceNumber]

theorem number?_write {m : PropertyMap} {w : Write} (h : ¬ w.SetsNumber p) :
    (m.write w).number? p d = m.number? p d := by
  cases w with
  | flag q e b => simp [write, replaceFlag]
  | number q e x =>
    have hq : ¬ (q = p ∧ e = d) := fun hk => h hk.1
    simp [write, replaceNumber, hq]

theorem flag?_writeAll (m : PropertyMap) {writes : List Write}
    (h : ∀ w ∈ writes, ¬ w.SetsFlag p) : (m.writeAll writes).flag? p d = m.flag? p d := by
  induction writes generalizing m with
  | nil => rfl
  | cons w writes ih =>
    obtain ⟨hw, hrest⟩ := List.forall_mem_cons.1 h
    exact (ih (m.write w) hrest).trans (flag?_write hw)

theorem number?_writeAll (m : PropertyMap) {writes : List Write}
    (h : ∀ w ∈ writes, ¬ w.SetsNumber p) : (m.writeAll writes).number? p d = m.number? p d := by
  induction writes generalizing m with
  | nil => rfl
  | cons w writes ih =>
    obtain ⟨hw, hrest⟩ := List.forall_mem_cons.1 h
    exact (ih (m.write w) hrest).trans (number?_write hw)

end PropertyMap

def StoredEdge.writeAll (e : StoredEdge) (writes : List PropertyMap.Write) : StoredEdge :=
  { e with properties := e.properties.writeAll writes }

end RoutingCosts
