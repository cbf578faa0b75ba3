/-
# Template.Basic -- texts with variables

A variable is a path of words joined by dots between double braces, with blanks
allowed inside the braces, as in `{{ object.url }}`.  Everything else is literal,
also braces that enclose no such path.
-/
import Wikilink.Text.Scan

namespace Wikilink

set_option autoImplicit false

/-- A literal text or the path of a variable. -/
inductive Template.Segment where
  | literal (text : String)
  | variable (path : List String)
  deriving DecidableEq, Repr

/-- A template with its source text. -/
structure Template where
  source : String
  segments : List Template.Segment
  deriving DecidableEq, Repr

namespace Template

/-- The path between the braces of a variable, if it is one. -/
def variablePath? (inner : List Char) : Option (List String) :=
  let words := Text.split '.' (Text.trim inner)
  if words.all Text.isWordRun then some (words.map String.ofList) else none

/-- The variable at the start of a text. -/
def recognizeVariable : Text.Recognizer (List String)
  | '{' :: '{' :: rest =>
      let inner := rest.takeWhile (· ≠ '}')
      match rest.dropWhile (· ≠ '}') with
      | '}' :: '}' :: _ => (variablePath? inner).map fun path => (path, inner.length + 4)
      | _ => none
  | _ => none

/-- The segments of a text in pieces: neighbouring characters make one literal. -/
def segmentsOf : List (Text.Piece (List String)) → List Segment
  | [] => []
  | .form _ path :: rest => .variable path :: segmentsOf rest
  | .char c :: rest =>
      match segmentsOf rest with
      | .literal text :: others => .literal (String.singleton c ++ text) :: others
      | others => .literal (String.singleton c) :: others

/-- The template of a source text. -/
def ofSource (source : String) : Template :=
  ⟨source, segmentsOf (Text.pieces recognizeVariable none source.toList)⟩

/-- The first word of each variable, in order. -/
def variableNames (t : Template) : List String :=
  t.segments.filterMap fun
    | .variable path => path.head?
    | .literal _ => none

end Template

end Wikilink
