/-
# Text.Html -- text inside markup

Five characters have a meaning in markup or end an attribute value: the ampersand,
the two angle brackets and the two quotes.  Each is written as an entity, so the
text can stand between tags and inside quoted attributes alike.
-/

namespace Wikilink.Text

set_option autoImplicit false

/-- The entity of a character that has a meaning in markup. -/
def entity? : Char → Option String
  | '&' => some "&amp;"
  | '<' => some "&lt;"
  | '>' => some "&gt;"
  | '"' => some "&quot;"
  | '\x27' => some "&#x27;"
  | _ => none

/-- One character as it stands in markup. -/
def escapeChar (c : Char) : List Char :=
  (entity? c).elim [c] String.toList

/-- The text as it stands in markup. -/
def escapeHtml (s : String) : String :=
  String.ofList (s.toList.flatMap escapeChar)

end Wikilink.Text
