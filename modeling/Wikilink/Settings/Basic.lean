/-
# Settings.Basic -- the settings of a site

The settings say where the index is kept and which content types there are.  The
objects of a content type come from a file of records.  Paths in the settings are
relative to the directory of the settings file.
-/
import Wikilink.Disk.Path
import Wikilink.LinkType.Basic
import Wikilink.Records

namespace Wikilink

set_option autoImplicit false

/-! ## One content type -/

/-- Templates in place of the usual ones. -/
structure TemplateSettings where
  link : Option String := none
  unresolved : Option String := none
  ambiguous : Option String := none
  typeUnresolved : Option String := none
  disallowed : Option String := none
  deriving DecidableEq, Repr

/-- A field-set as it is written: one path, or a list of paths. -/
inductive FieldSetSettings where
  | one (path : String)
  | many (paths : List String)
  deriving DecidableEq, Repr

/-- The settings of a content type. -/
structure TypeSettings where
  name : String
  shortcuts : List String
  /-- The path of the file of records. -/
  records : String
  fields : List String := []
  searchedFields : Option (List FieldSetSettings) := none
  embeddableAttributes : List String := []
  /-- The templates of the embeds. -/
  embeds : Table String := []
  urlField : Option String := none
  scopeField : Option String := none
  /-- The template of the display. -/
  display : Option String := none
  templates : TemplateSettings := {}
  deriving DecidableEq, Repr

namespace FieldSetSettings

/-- The field-set that is meant. -/
def fieldSet : FieldSetSettings → FieldSet
  | one path => .single path
  | many paths => ⟨paths⟩

end FieldSetSettings

namespace TemplateSettings

/-- The templates with the ones that are set in place of the others. -/
def apply (s : TemplateSettings) (t : Templates) : Templates where
  link := (s.link.map Template.ofSource).getD t.link
  unresolved := (s.unresolved.map Template.ofSource).getD t.unresolved
  ambiguous := (s.ambiguous.map Template.ofSource).getD t.ambiguous
  typeUnresolved := (s.typeUnresolved.map Template.ofSource).getD t.typeUnresolved
  disallowed := (s.disallowed.map Template.ofSource).getD t.disallowed

end TemplateSettings

namespace TypeSettings

/-- How the records are read. -/
def format (s : TypeSettings) : RecordFormat where
  contentType := s.name
  fields := s.fields
  display := s.display.map Template.ofSource
  embeds := s.embeds.map fun (name, source) => (name, .ofSource source)
  scopeField := s.scopeField

/-- The link type of records with the given schema. -/
def linkType (s : TypeSettings) (schema : Schema) : LinkType :=
  let usual : LinkType := { schema := schema }
  let t := (usual.withEmbeddable s.embeddableAttributes).withUrlField
    (s.urlField.getD defaultUrlField)
  { t with
    searched := (s.searchedFields.map (·.map FieldSetSettings.fieldSet)).getD t.searched
    templates := s.templates.apply t.templates }

/-- The link type and the objects of a list of records. -/
def read (s : TypeSettings) (values : List Json) : Except RecordFault (LinkType × Source) := do
  let (schema, source) ← s.format.read values
  return (s.linkType schema, source)

end TypeSettings

/-! ## The whole site -/

/-- The settings of a site. -/
structure Settings where
  /-- The path of the index. -/
  indexPath : String := "smartlinks.redb"
  types : List TypeSettings := []
  /-- The directory that paths are relative to. -/
  baseDirectory : String := "."
  deriving DecidableEq, Repr

namespace Settings

/-- A path of the settings as seen from outside. -/
def resolve (s : Settings) (path : String) : String :=
  Disk.join s.baseDirectory path

/-- The path of the index as seen from outside. -/
def resolvedIndexPath (s : Settings) : String :=
  s.resolve s.indexPath

end Settings

end Wikilink
