/-
# Mention.Embed -- reading an embed at the start of a text

`{{`, a query, then an attribute and options, each behind a bar, and `}}`.  The
query is free text up to the first bar, braces and line ends included.  What
follows it is strict: the attribute is a word, an option is a word or two words
around an equals sign, and blanks may stand around each of them.
-/
import Wikilink.Mention.Basic
import Wikilink.Text.Scan

namespace Wikilink.Mention

set_option autoImplicit false

/-- One option as it is written between two bars. -/
inductive Choice where
  | bare (value : String)
  | named (name value : String)
  deriving DecidableEq, Repr

/-- The word that is left of a text without the blanks around it. -/
def word? (s : List Char) : Option String :=
  if Text.isWordRun (Text.trim s) then some (trimmed s) else none

/-- The option between two bars. -/
def choice? (s : List Char) : Option Choice :=
  match Text.splitOnce? '=' s with
  | none => (word? s).map .bare
  | some (name, value) => do return .named (← word? name) (← word? value)

/-- The options in the order in which they are written; under a repeated name the last value
counts. -/
def collect (choices : List Choice) : EmbedOptions :=
  choices.foldl (fun options choice =>
    match choice with
    | .bare value => { options with positional := options.positional ++ [value] }
    | .named name value => { options with named := options.named.insert name value }) {}

/-- The attribute and the options of the text between the first bar and the closing braces. -/
def embedRequest? (inner : List Char) : Option Request :=
  match Text.split '|' inner with
  | [] => none
  | first :: others => do
      let attr ← word? first
      let choices ← others.mapM choice?
      return .embed attr (collect choices)

/-- The parts of an embed: the text before the first bar, what is asked for, and the number of
characters between the braces. -/
def embedParts? (inner : List Char) : Option (List Char × Request × Nat) :=
  let subject := inner.takeWhile inQuery
  if subject.isEmpty then none
  else
    match inner.dropWhile inQuery with
    | '|' :: rest =>
        let tail := rest.takeWhile (· ≠ '}')
        match rest.dropWhile (· ≠ '}') with
        | '}' :: '}' :: _ => do
            let request ← embedRequest? tail
            return (subject, request, subject.length + 1 + tail.length)
        | _ => none
    | _ => none

/-- The embed at the start of a text. -/
def recognizeEmbed : Text.Recognizer Mention
  | '{' :: '{' :: inner => do
      let (subject, request, size) ← embedParts? inner
      let (typeHint, query) := splitHint subject
      let fullText := String.ofList (('{' :: '{' :: inner).take (size + 4))
      return (⟨fullText, typeHint, query, request⟩, size + 4)
  | _ => none

end Wikilink.Mention
