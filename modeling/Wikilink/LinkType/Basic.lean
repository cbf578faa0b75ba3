/-
# LinkType.Basic -- how one content type is linked to

A link type says under which texts the objects of a content type are found,
which attributes may be embedded, where an object's URL stands and what the
mentions of an object are replaced by.
-/
import Wikilink.Content.Path
import Wikilink.Content.Schema
import Wikilink.Index.Basic
import Wikilink.Lookup
import Wikilink.Template.Outcomes

namespace Wikilink

set_option autoImplicit false

/-! ## Where an object is found -/

/-- Field paths whose values make up one search text together. -/
structure FieldSet where
  paths : List String
  deriving DecidableEq, Repr

namespace FieldSet

/-- The field-set of one path. -/
def single (path : String) : FieldSet :=
  ⟨[path]⟩

/-- A field-set as it is shown. -/
def text (fields : FieldSet) : String :=
  "(" ++ ", ".intercalate fields.paths ++ ")"

/-- The values of the paths one after the other. -/
def searchText (fields : FieldSet) (o : Item) : String :=
  String.join (fields.paths.map fun path => (o.valueAt path).toText)

theorem searchText_single (path : String) (o : Item) :
    (single path).searchText o = (o.valueAt path).toText := by
  rw [searchText, single, List.map_singleton, String.join_cons, String.join_nil,
    String.append_empty]

end FieldSet

/-- The texts under which an object is found. -/
inductive SearchTexts where
  /-- One text for each field-set of the link type. -/
  | fieldSets
  /-- Texts of another origin. -/
  | custom (texts : Item → List String)

/-- The way from a query to an object. -/
inductive Finder where
  /-- By the search keys in the index. -/
  | searchKeys
  /-- By other means. -/
  | custom (find : Index → String → Except Error (Lookup Item))

/-! ## The link type -/

/-- The field that holds the URL unless another is named. -/
def defaultUrlField : String := "url"

/-- How the objects of a content type are linked to. -/
structure LinkType where
  schema : Schema
  searched : List FieldSet := [.single idField, .single displayField]
  searchTexts : SearchTexts := .fieldSets
  /-- The attributes that may be embedded, in ascending order. -/
  embeddable : List String := []
  urlField : String := defaultUrlField
  templates : Templates := .forUrlField defaultUrlField
  finder : Finder := .searchKeys

namespace LinkType

/-- The content type. -/
def contentType (t : LinkType) : String :=
  t.schema.contentType

/-- The link type with the given attributes as the ones that may be embedded. -/
def withEmbeddable (t : LinkType) (attrs : List String) : LinkType :=
  { t with embeddable := Ascending.ofList (· < ·) attrs }

/-- The link type with another field for the URL, which its links read from then on. -/
def withUrlField (t : LinkType) (urlField : String) : LinkType :=
  { t with
    urlField := urlField
    templates := { t.templates with link := (Templates.forUrlField urlField).link } }

/-- Whether an attribute may be embedded. -/
def isEmbeddable (t : LinkType) (attr : String) : Bool :=
  attr ∈ t.embeddable

/-- The texts under which an object is found. -/
def textsOf (t : LinkType) (o : Item) : List String :=
  match t.searchTexts with
  | .fieldSets => t.searched.map fun fields => fields.searchText o
  | .custom texts => texts o

/-- The search keys of an object, in ascending order; texts without a key give none. -/
def searchKeys (t : LinkType) (o : Item) : List String :=
  Index.storedKeys (t.textsOf o)

/-- The URL of an object, unless it is empty. -/
def urlOf? (t : LinkType) (o : Item) : Option String :=
  let url := (o.valueAt t.urlField).toText
  if url.isEmpty then none else some url

end LinkType

end Wikilink
