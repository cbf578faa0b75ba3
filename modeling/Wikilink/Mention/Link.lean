/-
# Mention.Link -- reading a link at the start of a text

`[[`, a query, a bar and a label if there is one, and `]]`.  Neither part may be
empty or contain a closing bracket, and the query ends at the first bar; so the
link ends at the first closing bracket, which has to be doubled.
-/
import Wikilink.Mention.Basic
import Wikilink.Text.Scan

namespace Wikilink.Mention

set_option autoImplicit false

/-- The parts of a link: the text before the first bar, the text behind it, and the number of
characters between the brackets. -/
def linkParts? (inner : List Char) : Option (List Char × Option (List Char) × Nat) :=
  let subject := inner.takeWhile inQuery
  if subject.isEmpty then none
  else
    match inner.dropWhile inQuery with
    | ']' :: ']' :: _ => some (subject, none, subject.length)
    | '|' :: rest =>
        let verbose := rest.takeWhile (· ≠ ']')
        if verbose.isEmpty then none
        else
          match rest.dropWhile (· ≠ ']') with
          | ']' :: ']' :: _ => some (subject, some verbose, subject.length + 1 + verbose.length)
          | _ => none
    | _ => none

/-- The link at the start of a text. -/
def recognizeLink : Text.Recognizer Mention
  | '[' :: '[' :: inner => do
      let (subject, verbose, size) ← linkParts? inner
      let (typeHint, query) := splitHint subject
      let fullText := String.ofList (('[' :: '[' :: inner).take (size + 4))
      return (⟨fullText, typeHint, query, .link (verbose.map trimmed)⟩, size + 4)
  | _ => none

end Wikilink.Mention
