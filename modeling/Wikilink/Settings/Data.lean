/-
# Settings.Data -- settings as JSON data

Settings are read from data that came from a TOML or a JSON text, and written as
data again.  Names that the settings do not know are passed over, and so are, in
TOML alone, surplus elements where a structure is given as an array.
-/
import Wikilink.Json.Decode
import Wikilink.Settings.Basic

namespace Wikilink

set_option autoImplicit false

open Json (Decoder Surplus)

namespace FieldSetSettings

/-- Reads a field-set. -/
def ofJson? : Decoder FieldSetSettings
  | .string path => some (.one path)
  | j => (Json.strings? j).map .many

/-- A field-set as data. -/
def toJson : FieldSetSettings → Json
  | one path => .string path
  | many paths => .ofStrings paths

end FieldSetSettings

namespace TemplateSettings

/-- Reads the templates.  In an array none may be missing. -/
def ofJson? (surplus : Surplus) (j : Json) : Option TemplateSettings := do
  let field ← j.fields? surplus 5
  let text := Json.optional Json.string?
  guard (j.array?.all fun items => 5 ≤ items.length)
  return {
    link := ← text (field 0 "link")
    unresolved := ← text (field 1 "unresolved")
    ambiguous := ← text (field 2 "ambiguous")
    typeUnresolved := ← text (field 3 "type_unresolved")
    disallowed := ← text (field 4 "disallowed") }

/-- The templates as data. -/
def toJson (s : TemplateSettings) : Json :=
  .ofEntries
    [("link", .ofOption s.link), ("unresolved", .ofOption s.unresolved),
      ("ambiguous", .ofOption s.ambiguous), ("type_unresolved", .ofOption s.typeUnresolved),
      ("disallowed", .ofOption s.disallowed)]

end TemplateSettings

namespace TypeSettings

/-- Reads the settings of a content type. -/
def ofJson? (surplus : Surplus) (j : Json) : Option TypeSettings := do
  let field ← j.fields? surplus 11
  let text := Json.optional Json.string?
  return {
    name := ← Json.required Json.string? (field 0 "name")
    shortcuts := ← Json.required Json.strings? (field 1 "shortcuts")
    records := ← Json.required Json.string? (field 2 "records")
    fields := ← Json.withDefault [] Json.strings? (field 3 "fields")
    searchedFields :=
      ← Json.optional (Json.list? FieldSetSettings.ofJson?) (field 4 "searched_fields")
    embeddableAttributes := ← Json.withDefault [] Json.strings? (field 5 "embeddable_attributes")
    embeds := ← Json.withDefault [] Json.stringTable? (field 6 "embeds")
    urlField := ← text (field 7 "url_field")
    scopeField := ← text (field 8 "scope_field")
    display := ← text (field 9 "display")
    templates := ← Json.withDefault {} (TemplateSettings.ofJson? surplus) (field 10 "templates") }

/-- The settings of a content type as data. -/
def toJson (s : TypeSettings) : Json :=
  let searched := match s.searchedFields with
    | none => Json.null
    | some sets => .array (sets.map FieldSetSettings.toJson)
  .ofEntries
    [("name", .string s.name), ("shortcuts", .ofStrings s.shortcuts),
      ("records", .string s.records), ("fields", .ofStrings s.fields),
      ("searched_fields", searched),
      ("embeddable_attributes", .ofStrings s.embeddableAttributes),
      ("embeds", .object (s.embeds.map fun (name, source) => (name, .string source))),
      ("url_field", .ofOption s.urlField), ("scope_field", .ofOption s.scopeField),
      ("display", .ofOption s.display), ("templates", s.templates.toJson)]

end TypeSettings

namespace Settings

/-- Reads the settings of a site. -/
def ofJson? (surplus : Surplus) (j : Json) : Option Settings := do
  let field ← j.fields? surplus 2
  let usual : Settings := {}
  return {
    indexPath := ← Json.withDefault usual.indexPath Json.string? (field 0 "index_path")
    types := ← Json.withDefault [] (Json.list? (TypeSettings.ofJson? surplus)) (field 1 "types") }

/-- The settings of a site as the members of an object. -/
def toMembers (s : Settings) : List (String × Json) :=
  [("index_path", .string s.indexPath), ("types", .array (s.types.map TypeSettings.toJson))]

end Settings

end Wikilink
