import Mathlib.Data.Int.Notation
import Mathlib.Data.List.Forall2
import RoutingCosts.Json.Number
import RoutingCosts.Json.Skip

/-!
# The grammar of JSON

Which texts are JSON is said here by what they are made of. The readers do not occur: a string is
its pieces between quotes, a number its digits, a list or object its items with commas between them,
and blanks may stand wherever two tokens meet.
-/

set_option autoImplicit false

namespace RoutingCosts.Json

def IsBlanks (cs : List Char) : Prop := ∀ c ∈ cs, c ∈ [' ', '\n', '\t', '\r']

section Strings

inductive HexDigit : ℕ → Char → Prop
  | lower {n : ℕ} (small : n < 16) : HexDigit n n.digitChar
  | upper {n : ℕ} (small : n < 16) : HexDigit n n.digitChar.toUpper

inductive HexWord : ℕ → List Char → Prop
  | digits {a b c d : ℕ} {x y z w : Char} (first : HexDigit a x) (second : HexDigit b y)
      (third : HexDigit c z) (fourth : HexDigit d w) :
      HexWord (((a * 16 + b) * 16 + c) * 16 + d) [x, y, z, w]

def escapeLetters : List (Char × Char) :=
  [('"', '"'), ('\\', '\\'), ('/', '/'), ('b', '\x08'), ('f', '\x0c'), ('n', '\n'), ('r', '\r'),
    ('t', '\t')]

/-- What may be written between quotes for a character. Beyond 16 bits its number is that of a
    surrogate pair. -/
inductive Spells (c : Char) : List Char → Prop
  | plain (quote : c ≠ '"') (backslash : c ≠ '\\') (printable : 0x20 ≤ c.toNat) : Spells c [c]
  | letter {l : Char} (letter : (l, c) ∈ escapeLetters) : Spells c ['\\', l]
  | number {ds : List Char} (word : HexWord c.toNat ds) : Spells c ('\\' :: 'u' :: ds)
  | pair {high low : ℕ} {ds es : List Char} (highSmall : high < 0x400) (lowSmall : low < 0x400)
      (value : c.toNat = 0x10000 + high * 0x400 + low) (leading : HexWord (0xD800 + high) ds)
      (trailing : HexWord (0xDC00 + low) es) :
      Spells c ('\\' :: 'u' :: (ds ++ '\\' :: 'u' :: es))

/-- The string is written as the text. -/
def IsText (s : String) (cs : List Char) : Prop :=
  ∃ pieces : List (List Char),
    List.Forall₂ Spells s.toList pieces ∧ cs = '"' :: (pieces.flatten ++ ['"'])

/-- What may stand between quotes. The number of an escape need not be that of a character. -/
inductive IsPiece : List Char → Prop
  | plain {c : Char} (quote : c ≠ '"') (backslash : c ≠ '\\') (printable : 0x20 ≤ c.toNat) :
      IsPiece [c]
  | letter {l c : Char} (letter : (l, c) ∈ escapeLetters) : IsPiece ['\\', l]
  | number {n : ℕ} {ds : List Char} (word : HexWord n ds) : IsPiece ('\\' :: 'u' :: ds)

def IsString (cs : List Char) : Prop :=
  ∃ pieces : List (List Char),
    (∀ piece ∈ pieces, IsPiece piece) ∧ cs = '"' :: (pieces.flatten ++ ['"'])

end Strings

section Numbers

def IsDigits (ds : List Char) : Prop := ds ≠ [] ∧ ∀ d ∈ ds, d.isDigit = true

namespace Numeral

/-- A zero before the point stands alone. -/
inductive IsWholePart : List Char → Prop
  | zero : IsWholePart ['0']
  | digits {d : Char} {ds : List Char} (nonzero : d ≠ '0') (digits : IsDigits (d :: ds)) :
      IsWholePart (d :: ds)

inductive IsFractionPart : List Char → List Char → Prop
  | absent : IsFractionPart [] []
  | point {ds : List Char} (digits : IsDigits ds) : IsFractionPart ds ('.' :: ds)

inductive IsPowerPart : ℤ → List Char → Prop
  | absent : IsPowerPart 0 []
  | bare {c : Char} {ds : List Char} (mark : c = 'e' ∨ c = 'E') (digits : IsDigits ds) :
      IsPowerPart (Nat.ofDigitChars 10 ds 0) (c :: ds)
  | plus {c : Char} {ds : List Char} (mark : c = 'e' ∨ c = 'E') (digits : IsDigits ds) :
      IsPowerPart (Nat.ofDigitChars 10 ds 0) (c :: '+' :: ds)
  | minus {c : Char} {ds : List Char} (mark : c = 'e' ∨ c = 'E') (digits : IsDigits ds) :
      IsPowerPart (-(Nat.ofDigitChars 10 ds 0 : ℕ)) (c :: '-' :: ds)

inductive IsWritten (n : Numeral) : List Char → Prop
  | parts {fs ps : List Char} (whole : IsWholePart n.whole)
      (fraction : IsFractionPart n.fraction fs) (power : IsPowerPart n.power ps) :
      IsWritten n (n.whole ++ (fs ++ ps))

end Numeral

/-- The text is a number, whether or not it is in range. -/
inductive IsNumeral : List Char → Prop
  | unsigned {n : Numeral} {cs : List Char} (written : n.IsWritten cs) : IsNumeral cs
  | negative {n : Numeral} {cs : List Char} (written : n.IsWritten cs) : IsNumeral ('-' :: cs)

end Numbers

section Values

def Bracket.opening : Bracket → Char
  | .list => '['
  | .object => '\x7b'

inductive IsElement (value : List Char) : List Char → Prop
  | among {ws ws' : List Char} (before : IsBlanks ws) (after : IsBlanks ws') :
      IsElement value (ws ++ (value ++ ws'))

/-- A value after a name and a colon, all of them among blanks. -/
inductive IsMember (isName : List Char → Prop) (value : List Char) : List Char → Prop
  | among {ws key gap piece : List Char} (before : IsBlanks ws) (name : isName key)
      (between : IsBlanks gap) (element : IsElement value piece) :
      IsMember isName value (ws ++ (key ++ (gap ++ ':' :: piece)))

def IsItem : Bracket → List Char → List Char → Prop
  | .list => IsElement
  | .object => IsMember IsString

/-- The text is a value of any kind and depth. -/
inductive IsJson : List Char → Prop
  | null : IsJson ['n', 'u', 'l', 'l']
  | true : IsJson ['t', 'r', 'u', 'e']
  | false : IsJson ['f', 'a', 'l', 's', 'e']
  | number {cs : List Char} (number : IsNumeral cs) : IsJson cs
  | string {cs : List Char} (string : IsString cs) : IsJson cs
  | empty (b : Bracket) {ws : List Char} (blanks : IsBlanks ws) :
      IsJson (b.opening :: (ws ++ [b.closing]))
  | items (b : Bracket) {values pieces : List (List Char)}
      (items : List.Forall₂ (IsItem b) values pieces) (each : ∀ value ∈ values, IsJson value) :
      IsJson (b.opening :: (List.intercalate [','] pieces ++ [b.closing]))

/-- The text is an object of members that are given by their names and the texts of their values. -/
def IsObject (members : List (String × List Char)) (cs : List Char) : Prop :=
  ∃ pieces, List.Forall₂ (fun m => IsMember (IsText m.1) m.2) members pieces ∧
    cs = '\x7b' :: (List.intercalate [','] pieces ++ ['\x7d'])

def IsList (values : List (List Char)) (cs : List Char) : Prop :=
  ∃ pieces, List.Forall₂ IsElement values pieces ∧
    cs = '[' :: (List.intercalate [','] pieces ++ [']'])

def IsObjectText (members : List (String × List Char)) (text : String) : Prop :=
  ∃ cs, IsObject members cs ∧ IsElement cs text.toList

def IsListText (values : List (List Char)) (text : String) : Prop :=
  ∃ cs, IsList values cs ∧ IsElement cs text.toList

end Values

end RoutingCosts.Json
