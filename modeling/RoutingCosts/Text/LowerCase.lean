import RoutingCosts.Text.Cased
import RoutingCosts.Text.CaseIgnorable
import RoutingCosts.Text.SimpleLowerCase

/-!
# Lower case of a text

Full lower case: besides the mapping of single characters, a capital sigma at the end of a word
becomes the final sigma, and a capital I with a dot above becomes an i and a combining dot.
-/

set_option autoImplicit false

namespace RoutingCosts.Text

def startsCased (cs : List Char) : Bool :=
  match cs.dropWhile isCaseIgnorable with
  | [] => false
  | c :: _ => isCased c

/-- The lower case of `c` between the characters `before` it, nearest first, and those `after` it. -/
def lowerCaseOf (before : List Char) (c : Char) (after : List Char) : List Char :=
  if c = 'Σ' then [if startsCased before && !startsCased after then 'ς' else 'σ']
  else if c = 'İ' then ['i', '\u0307']
  else [simpleLowerCase c]

def lowerCaseAfter (before : List Char) : List Char → List Char
  | [] => []
  | c :: after => lowerCaseOf before c after ++ lowerCaseAfter (c :: before) after

def lowerCase (cs : List Char) : List Char := lowerCaseAfter [] cs

end RoutingCosts.Text
