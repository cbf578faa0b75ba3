/-
# Mention.Basic -- smartlinks as they stand in a text

A *mention* names an object by a query.  It is a link, `[[ query | label ]]`, or
an embed, `{{ query | attribute | options }}`.  A query may be restricted to one
kind of object by a type hint, `movie->query`.
-/
import Wikilink.Table
import Wikilink.Text.Basic

namespace Wikilink

set_option autoImplicit false

/-- The options of an embed, as they are written. -/
structure EmbedOptions where
  /-- Bare options in their order. -/
  positional : List String := []
  /-- Options of the form `name = value`. -/
  named : Table String := []
  deriving DecidableEq, Repr

/-- Whether no option is given. -/
def EmbedOptions.isEmpty (options : EmbedOptions) : Bool :=
  options.positional.isEmpty && options.named.isEmpty

/-- What a mention asks for. -/
inductive Mention.Request where
  /-- A link, with the text behind the bar if there is one. -/
  | link (verbose : Option String)
  /-- What an attribute of the object gives. -/
  | embed (attr : String) (options : EmbedOptions)
  deriving DecidableEq, Repr

/-- A link or an embed. -/
structure Mention where
  /-- The whole mention, brackets included. -/
  fullText : String
  typeHint : Option String
  /-- The query without blanks around it. -/
  query : String
  request : Mention.Request
  deriving DecidableEq, Repr

namespace Mention

/-- The text shown for the mention: the text behind the bar unless that is blank, else the
query. -/
def label (m : Mention) : String :=
  match m.request with
  | .link (some verbose) => if verbose.isEmpty then m.query else verbose
  | _ => m.query

/-- Whether the mention is an embed. -/
def isEmbed (m : Mention) : Bool :=
  match m.request with
  | .link _ => false
  | .embed _ _ => true

/-- A text without blanks at either end. -/
def trimmed (s : List Char) : String :=
  String.ofList (Text.trim s)

/-- Whether a character may stand in a query: neither a closing bracket nor a bar. -/
def inQuery (c : Char) : Bool :=
  c ≠ ']' && c ≠ '|'

/-- The type hint and the query of a text before the first bar: a hint is a word, an arrow and
something after it, with blanks allowed around the word. -/
def splitHint (subject : List Char) : Option String × String :=
  let start := subject.dropWhile Text.isBlank
  match start.takeWhile Text.isWord, (start.dropWhile Text.isWord).dropWhile Text.isBlank with
  | w :: ws, '-' :: '>' :: c :: cs => (some (String.ofList (w :: ws)), trimmed (c :: cs))
  | _, _ => (none, trimmed subject)

end Mention

end Wikilink
