/-
# SearchKey -- the normal form under which texts are found

Two texts find each other when they have the same search key: lower-case, without
everything that is no letter, numeral or underscore, and cut after 300
characters.  Lower-casing comes before the selection, so a combining mark that
lower-casing brings in is dropped with the others, and the cut comes last and
counts characters.
-/
import Wikilink.Text.Class
import Wikilink.Text.LowerCase

namespace Wikilink

set_option autoImplicit false

namespace SearchKey

/-- The greatest number of characters of a search key. -/
def maxLength : Nat := 300

/-- Whether a character may stand in a search key. -/
def admits (c : Char) : Bool :=
  Text.isAlphanumeric c || c = '_'

/-- The search key of a text, character by character. -/
def ofChars (text : List Char) : List Char :=
  ((text.flatMap Text.lower).filter admits).take maxLength

end SearchKey

/-- The search key of a text. -/
def searchKey (text : String) : String :=
  String.ofList (SearchKey.ofChars text.toList)

example : searchKey "Mad Max: 1984" = "madmax1984" := by decide +kernel

end Wikilink
