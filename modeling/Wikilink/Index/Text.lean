/-
# Index.Text -- an index as the text of a file

The file holds JSON data: the layout version, and the rows in the order of their
keys.  The second table of the index is made again from the rows.
-/
import Wikilink.Index.Stored
import Wikilink.Json.Decode
import Wikilink.Json.Parser
import Wikilink.Json.Printer

namespace Wikilink

set_option autoImplicit false

/-- Reads a row. -/
def Row.ofJson? (j : Json) : Option Row := do
  let field ← j.fields? .refused 3
  let key ← Json.required Json.string? (field 0 "key")
  let contentType ← Json.required Json.string? (field 1 "content_type")
  let id ← Json.required Json.nat? (field 2 "id")
  return ⟨key, contentType, id⟩

/-- A row as data. -/
def Row.toJson (r : Row) : Json :=
  .array [.string r.key, .string r.owner.contentType, .int r.owner.id]

/-- The index of a list of distinct rows. -/
def Index.ofRows (rows : List Row) : Except Error Index :=
  rows.foldlM Index.insertRow .empty

namespace StoredIndex

/-- The text of a stored index. -/
def toText (s : StoredIndex) : String :=
  let rows := s.index.byKey.map Row.toJson
  (Json.ofEntries [("rows", .array rows), ("version", .ofOption s.version)]).compact

/-- The stored index of a text; an empty text is an index without rows and version. -/
def ofText? (text : String) : Option StoredIndex :=
  if text.isEmpty then some ⟨.empty, none⟩
  else do
    let field ← (← Json.parse? text).fields? .refused 2
    let rows ← Json.required (Json.list? Row.ofJson?) (field 0 "rows")
    let version ← Json.optional Json.string? (field 1 "version")
    match Index.ofRows rows with
    | .ok ix => return ⟨ix, version⟩
    | .error _ => none

end StoredIndex

end Wikilink
