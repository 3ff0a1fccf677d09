import RoutingCosts.Number.Layout

set_option autoImplicit false

namespace RoutingCosts.Json

/-- Numbers have the fewest digits that read back, a point, and an exponent only from `10^16` on
    and below `10^-5`. What is no number is written as `null`. -/
def numberLayout : Layout where
  tie := .toEven
  positional := some (-4, 16)
  wholePoint := true
  plusSign := true
  undefined := "null"
  infinite := "null"
  negativeInfinite := "null"

def writeNumber (x : Float) : List Char := (numberLayout.render x).toList

def writeFlag (b : Bool) : List Char :=
  if b then ['t', 'r', 'u', 'e'] else ['f', 'a', 'l', 's', 'e']

def hexDigit (n : Nat) : Char :=
  if n < 10 then .ofNat ('0'.toNat + n) else .ofNat ('a'.toNat + n - 10)

def writtenChar (c : Char) : List Char :=
  if c = '"' then ['\\', '"']
  else if c = '\\' then ['\\', '\\']
  else if c = '\x08' then ['\\', 'b']
  else if c = '\t' then ['\\', 't']
  else if c = '\n' then ['\\', 'n']
  else if c = '\x0c' then ['\\', 'f']
  else if c = '\r' then ['\\', 'r']
  else if c.toNat < 0x20 then
    ['\\', 'u', '0', '0', hexDigit (c.toNat / 16), hexDigit (c.toNat % 16)]
  else [c]

def writeText (s : String) : List Char := '"' :: (s.toList.flatMap writtenChar ++ ['"'])

def writeOrNull {α : Type} (write : α → List Char) : Option α → List Char
  | some a => write a
  | none => ['n', 'u', 'l', 'l']

def writeMember (member : String × List Char) : List Char :=
  writeText member.1 ++ ':' :: member.2

def writeObject (members : List (String × List Char)) : List Char :=
  '\x7b' :: (List.intercalate [','] (members.map writeMember) ++ ['\x7d'])

end RoutingCosts.Json
