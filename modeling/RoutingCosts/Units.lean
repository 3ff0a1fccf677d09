import RoutingCosts.Json.Scalar
import RoutingCosts.Json.Writer

set_option autoImplicit false

namespace RoutingCosts

structure Meters where
  value : Float
deriving DecidableEq

structure Kmh where
  value : Float
deriving DecidableEq

/-- Quantities are shown with the fewest digits that read back and never with an exponent. -/
def quantityLayout : Layout where
  tie := .upward
  positional := none
  wholePoint := false
  plusSign := false
  undefined := "NaN"
  infinite := "inf"
  negativeInfinite := "-inf"

def showQuantity (x : Float) : String := quantityLayout.render x

namespace Meters

def zero : Meters := ⟨0⟩

def seconds (d : Meters) (v : Kmh) : Float := d.value * 3.6 / v.value

def milliseconds (d : Meters) (v : Kmh) : Float := d.value * 3600.0 / v.value

def text (d : Meters) : String := showQuantity d.value ++ " m"

def order? (d e : Meters) : Option Ordering := RoutingCosts.order? d.value e.value

def reader : Json.Reader Meters := Json.Reader.number.map Meters.mk

def write (d : Meters) : List Char := Json.writeNumber d.value

/-- Equality of numbers: both zeros are equal, and an undefined length equals nothing. -/
def equals (d e : Meters) : Bool := d.value == e.value

end Meters

namespace Kmh

def text (v : Kmh) : String := showQuantity v.value ++ " km/h"

def order? (v w : Kmh) : Option Ordering := RoutingCosts.order? v.value w.value

def reader : Json.Reader Kmh := Json.Reader.number.map Kmh.mk

def write (v : Kmh) : List Char := Json.writeNumber v.value

/-- Equality of numbers: both zeros are equal, and an undefined speed equals nothing. -/
def equals (v w : Kmh) : Bool := v.value == w.value

end Kmh

end RoutingCosts
