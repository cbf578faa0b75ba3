/-
# Text.Class -- the character classes of the markup

Three classes decide how text is read.  A *blank* character has the White_Space
property.  An *alphanumeric* character is alphabetic or a numeral of any kind,
the newest scripts included; search keys are made of these and the underscore.
A *word* character is one that may stand inside an identifier: alphabetic
characters, marks, decimal digits, connector punctuation and the two joiners.
The last two classes differ in both directions: `½` is alphanumeric and no word
character, a combining accent is a word character and not alphanumeric.
-/
import Wikilink.Text.Additions
import Wikilink.Text.Alphabetic
import Wikilink.Text.Mark
import Wikilink.Text.Number

namespace Wikilink.Text

set_option autoImplicit false

/-- Code points with the White_Space property. -/
def whiteSpace : CodePoints :=
  [(0x9, 0xD), (0x20, 0x20), (0x85, 0x85), (0xA0, 0xA0), (0x1680, 0x1680), (0x2000, 0x200A),
   (0x2028, 0x2029), (0x202F, 0x202F), (0x205F, 0x205F), (0x3000, 0x3000)]

/-- Connector punctuation, of which the underscore is the commonest. -/
def connector : CodePoints :=
  [(0x5F, 0x5F), (0x203F, 0x2040), (0x2054, 0x2054), (0xFE33, 0xFE34), (0xFE4D, 0xFE4F),
   (0xFF3F, 0xFF3F)]

/-- The zero-width joiner and non-joiner. -/
def joiner : CodePoints :=
  [(0x200C, 0x200D)]

/-- White space of any kind. -/
def isBlank (c : Char) : Bool :=
  whiteSpace.contains c.toNat

/-- A letter or a numeral of any kind. -/
def isAlphanumeric (c : Char) : Bool :=
  alphabetic.contains c.toNat || decimalDigit.contains c.toNat || otherNumeral.contains c.toNat ||
    alphabeticAdditions.contains c.toNat || decimalDigitAdditions.contains c.toNat

/-- A character that may stand inside a word. -/
def isWord (c : Char) : Bool :=
  alphabetic.contains c.toNat || decimalDigit.contains c.toNat || connector.contains c.toNat ||
    mark.contains c.toNat || joiner.contains c.toNat

/-- A word: word characters only, and at least one. -/
def isWordRun (s : List Char) : Bool :=
  !s.isEmpty && s.all isWord

example : isAlphanumeric '½' = true ∧ isWord '½' = false := by decide

example : isAlphanumeric '\u0301' = false ∧ isWord '\u0301' = true := by decide +kernel

example : isAlphanumeric '\u0CDC' = true ∧ isWord '\u0CDC' = false := by decide +kernel

end Wikilink.Text
