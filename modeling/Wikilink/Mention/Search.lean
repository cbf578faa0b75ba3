/-
# Mention.Search -- the mentions of a text

Links and embeds are searched for separately, each in one walk over the text.  A
mention right after a backslash is left alone; the search goes on one character
later, so a bracket of the escaped mention can still open another.
-/
import Wikilink.Error
import Wikilink.Mention.Embed
import Wikilink.Mention.Link

namespace Wikilink.Mention

set_option autoImplicit false

/-- The two kinds of mention. -/
inductive Form where
  | link
  | embed
  deriving DecidableEq, Repr

namespace Form

/-- What the form looks like at the start of a text. -/
def recognizer : Form → Text.Recognizer Mention
  | link => recognizeLink
  | embed => recognizeEmbed

/-- The mention at the very start of a text; what follows it does not matter. -/
def parse? (form : Form) (text : String) : Option Mention :=
  (form.recognizer text.toList).map Prod.fst

/-- The text in pieces: the mentions of this form, and the characters around them. -/
def pieces (form : Form) (text : String) : List (Text.Piece Mention) :=
  Text.pieces form.recognizer (some '\\') text.toList

/-- The mentions of a text with their places, leftmost first. -/
def findAll (form : Form) (text : String) : List (Text.Located Mention) :=
  Text.locate 0 (form.pieces text)

/-- The text with each mention as `write` puts it. -/
def replaceAll (form : Form) (text : String) (write : Mention → Except Error String) :
    Except Error String :=
  Text.substitute write (form.pieces text)

end Form

/-- The link, or else the embed, at the start of a text. -/
def parse? (text : String) : Option Mention :=
  (Form.link.parse? text).or (Form.embed.parse? text)

end Wikilink.Mention
