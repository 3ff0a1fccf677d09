import RoutingCosts.Text.GraphemeExtend
import RoutingCosts.Text.Unprintable

set_option autoImplicit false

namespace RoutingCosts.Text

/-- The character is drawn together with the one before it. The two halfwidth sound marks of
    katakana extend that one too, but have a place of their own. -/
def isCombining (c : Char) : Bool := isGraphemeExtend c && c != '\uFF9E' && c != '\uFF9F'

def quotedChar (c : Char) : List Char :=
  if c = '"' then ['\\', '"']
  else if c = '\\' then ['\\', '\\']
  else if c = '\n' then ['\\', 'n']
  else if c = '\r' then ['\\', 'r']
  else if c = '\t' then ['\\', 't']
  else if c = '\x00' then ['\\', '0']
  else if isCombining c || isUnprintable c then
    '\\' :: 'u' :: '\x7b' :: (Nat.toDigits 16 c.toNat ++ ['\x7d'])
  else [c]

def quoted (s : String) : String :=
  .ofList ('"' :: (s.toList.flatMap quotedChar ++ ['"']))

end RoutingCosts.Text
