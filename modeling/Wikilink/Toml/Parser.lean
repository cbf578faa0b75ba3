/-
# Toml.Parser -- reading a TOML document

A document is a sequence of lines: headers that open a table, and keys with their
values.  It is read as JSON data, in which tables are objects and arrays of tables
are arrays of objects.
-/
import Wikilink.Toml.Scalar
import Wikilink.Toml.Text
import Wikilink.Toml.Tree

namespace Wikilink.Toml

set_option autoImplicit false

mutual

/-- The value at the start of a text.  `fuel` bounds the number of steps and `depth` the nesting
of arrays and inline tables. -/
def value? : Nat → Nat → List Char → Option (Json × List Char)
  | 0, _, _ => none
  | fuel + 1, depth, cs =>
      match cs with
      | '"' :: _ | '\x27' :: _ =>
          (string? cs).map fun (s, after) => (.string (String.ofList s), after)
      | '[' :: rest =>
          match depth with
          | 0 => none
          | depth + 1 => do
              let (items, after) ← items? fuel depth (skipLines false rest)
              return (.array items, after)
      | '{' :: rest =>
          match depth with
          | 0 => none
          | depth + 1 => do
              let (entries, after) ← match skipSpaces rest with
                | '}' :: after => pure ([], after)
                | _ => inline? fuel depth [] rest
              return (.object (entriesToJson entries), after)
      | _ => do
          let (word, after) := scalarText cs
          return (← scalarValue? word, after)

/-- The elements of an array from one of them, or from the closing bracket, on. -/
def items? : Nat → Nat → List Char → Option (List Json × List Char)
  | 0, _, _ => none
  | _ + 1, _, ']' :: after => some ([], after)
  | fuel + 1, depth, cs => do
      let (item, rest) ← value? fuel depth cs
      match skipLines false rest with
      | ']' :: after => return ([item], after)
      | ',' :: more =>
          let (items, after) ← items? fuel depth (skipLines false more)
          return (item :: items, after)
      | _ => none

/-- The entries of an inline table from a key on, added to the ones before it. -/
def inline? : Nat → Nat → Entries → List Char → Option (Entries × List Char)
  | 0, _, _, _ => none
  | fuel + 1, depth, es, cs => do
      let (key, value, rest) ← entry? fuel depth cs
      let es ← es.assign value key
      match skipSpaces rest with
      | '}' :: after => return (es, after)
      | ',' :: more => inline? fuel depth es more
      | _ => none

/-- The key and the value at the start of a text. -/
def entry? : Nat → Nat → List Char → Option (List String × Json × List Char)
  | 0, _, _ => none
  | fuel + 1, depth, cs => do
      let (key, rest) ← path? cs
      match rest with
      | '=' :: rest =>
          let (value, after) ← value? fuel depth (skipSpaces rest)
          return (key, value, after)
      | _ => none

end

/-- The path of a header and what follows the bracket that closes it. -/
def header? (cs : List Char) : Option (List String × String × List Char) := do
  let (path, rest) ← path? cs
  match rest, path.getLast? with
  | ']' :: after, some name => return (path.dropLast, name, after)
  | _, _ => none

/-- A document being read: its entries and the path of the table that is open. -/
structure Reading where
  entries : Entries := []
  table : List String := []

/-- The document with the next line, and the text after it. -/
def line? (fuel : Nat) (r : Reading) (cs : List Char) : Option (Reading × List Char) :=
  match skipSpaces cs with
  | '[' :: '[' :: rest => do
      let (path, name, after) ← header? rest
      match after with
      | ']' :: after =>
          let entries ← r.entries.openElement path name
          return (⟨entries, path ++ [name]⟩, ← endLine? after)
      | _ => none
  | '[' :: rest => do
      let (path, name, after) ← header? rest
      let entries ← r.entries.openTable path name
      return (⟨entries, path ++ [name]⟩, ← endLine? after)
  | rest =>
      match endLine? rest with
      | some after => some (r, after)
      | none => do
          let (key, value, after) ← entry? fuel depthLimit rest
          let entries ← r.entries.assignIn r.table key value
          return ({ r with entries := entries }, ← endLine? after)

/-- The entries of a document from the start of a line on.  `fuel` bounds the number of lines. -/
def linesFrom? : Nat → Reading → List Char → Option Entries
  | _, r, [] => some r.entries
  | 0, _, _ => none
  | fuel + 1, r, cs => do
      -- a value takes no more steps than twice its characters
      let (r, rest) ← line? (2 * cs.length + 2) r cs
      linesFrom? fuel r rest

/-- The text without a byte order mark at its start. -/
def dropMark : List Char → List Char
  | '\uFEFF' :: cs => cs
  | cs => cs

/-- The data that a document holds. -/
def parse? (text : String) : Option Json := do
  let cs := dropMark text.toList
  return .object (entriesToJson (← linesFrom? (cs.length + 1) {} cs))

end Wikilink.Toml
