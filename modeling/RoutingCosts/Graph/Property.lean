import RoutingCosts.Assoc
import RoutingCosts.Graph.Basic

set_option autoImplicit false

namespace RoutingCosts

inductive Property where
  | access (vehicle : String)
  | speed (vehicle : String)
deriving DecidableEq, Repr

def Property.text : Property → String
  | .access vehicle => vehicle ++ "_access"
  | .speed vehicle => vehicle ++ "_average_speed"

/-- Values by property and direction; the four kinds of value do not touch each other. -/
structure PropertyMap where
  forwardFlags : Assoc Property Bool
  backwardFlags : Assoc Property Bool
  forwardNumbers : Assoc Property Float
  backwardNumbers : Assoc Property Float

namespace PropertyMap

def empty : PropertyMap := ⟨.empty, .empty, .empty, .empty⟩

def flag? (m : PropertyMap) (p : Property) : Direction → Option Bool
  | .forward => m.forwardFlags.get? p
  | .backward => m.backwardFlags.get? p

def number? (m : PropertyMap) (p : Property) : Direction → Option Float
  | .forward => m.forwardNumbers.get? p
  | .backward => m.backwardNumbers.get? p

def setFlag (m : PropertyMap) (p : Property) (d : Direction) (b : Bool) : PropertyMap :=
  match d with
  | .forward => { m with forwardFlags := m.forwardFlags.insert p b }
  | .backward => { m with backwardFlags := m.backwardFlags.insert p b }

def setNumber (m : PropertyMap) (p : Property) (d : Direction) (x : Float) : PropertyMap :=
  match d with
  | .forward => { m with forwardNumbers := m.forwardNumbers.insert p x }
  | .backward => { m with backwardNumbers := m.backwardNumbers.insert p x }

def replaceFlag (m : PropertyMap) (p : Property) (d : Direction) (b : Bool) :
    Option Bool × PropertyMap :=
  (m.flag? p d, m.setFlag p d b)

def replaceNumber (m : PropertyMap) (p : Property) (d : Direction) (x : Float) :
    Option Float × PropertyMap :=
  (m.number? p d, m.setNumber p d x)

@[simp] theorem flag?_setFlag (m : PropertyMap) (p q : Property) (d e : Direction) (b : Bool) :
    (m.setFlag p d b).flag? q e = if p = q ∧ d = e then some b else m.flag? q e := by
  cases d <;> cases e <;> simp [setFlag, flag?]

@[simp] theorem number?_setNumber (m : PropertyMap) (p q : Property) (d e : Direction)
    (x : Float) :
    (m.setNumber p d x).number? q e = if p = q ∧ d = e then some x else m.number? q e := by
  cases d <;> cases e <;> simp [setNumber, number?]

@[simp] theorem number?_setFlag (m : PropertyMap) (p q : Property) (d e : Direction) (b : Bool) :
    (m.setFlag p d b).number? q e = m.number? q e := by
  cases d <;> cases e <;> rfl

@[simp] theorem flag?_setNumber (m : PropertyMap) (p q : Property) (d e : Direction)
    (x : Float) : (m.setNumber p d x).flag? q e = m.flag? q e := by
  cases d <;> cases e <;> rfl

end PropertyMap

end RoutingCosts
