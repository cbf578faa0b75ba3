/-
# CustomLink -- shortcuts to fixed URLs

A custom link is an object of its own: a list of shortcuts, one per line, that
all lead to one URL.  Each line is indexed by itself.
-/
import Wikilink.Json.Decode
import Wikilink.LinkType.Basic

namespace Wikilink

set_option autoImplicit false

/-- Shortcuts to a URL. -/
structure CustomLink where
  id : Nat
  /-- One shortcut per line. -/
  shortcuts : String
  url : String
  description : String := ""
  deriving DecidableEq, Repr

namespace CustomLink

/-! ## Data -/

/-- Reads a custom link. -/
def ofJson? (j : Json) : Option CustomLink := do
  let field ← j.fields? .refused 4
  return {
    id := ← Json.required Json.nat? (field 0 "id")
    shortcuts := ← Json.required Json.string? (field 1 "shortcuts")
    url := ← Json.required Json.string? (field 2 "url")
    description := ← Json.withDefault "" Json.string? (field 3 "description") }

/-- A custom link as data. -/
def toJson (link : CustomLink) : Json :=
  .ofEntries
    [("id", .int link.id), ("shortcuts", .string link.shortcuts), ("url", .string link.url),
      ("description", .string link.description)]

/-! ## The object -/

/-- The shortcuts without blanks around them and without blank lines. -/
def lines (link : CustomLink) : List String :=
  ((Text.lines link.shortcuts.toList).map Mention.trimmed).filter (· ≠ "")

/-- A custom link as it is shown. -/
def display (link : CustomLink) : String :=
  ", ".intercalate (link.lines.map fun line => s!"[[ {line} ]]") ++ " → " ++ link.url

/-- The field with the shortcuts. -/
def shortcutsField : String := "shortcuts"

/-- The lines of an object's shortcuts, as they stand. -/
def linesOf (o : Item) : List String :=
  let text := ((List.lookup shortcutsField o.fields).map Value.toText).getD ""
  (Text.lines text.toList).map String.ofList

/-- The custom link as an object. -/
def toItem (link : CustomLink) : Item where
  id := link.id
  display := link.display
  fields :=
    [(shortcutsField, .text link.shortcuts), ("url", .text link.url),
      ("description", .text link.description)]
  embed := Item.noEmbeds

/-- The members of custom links. -/
def schema : Schema :=
  (Schema.mk "custom_link" []).declareFields [shortcutsField, "url", "description"]

/-- The link type of custom links. -/
def linkType : LinkType where
  schema := schema
  searched := [.single shortcutsField]
  searchTexts := .custom linesOf

end CustomLink

end Wikilink
