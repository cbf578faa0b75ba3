/-
# LinkType.Faults -- what is wrong with a link type

A field path is checked as far as the schema goes: it has no empty segment, and
it starts at a member that needs no arguments or at one of the two names that
every object answers.  Segments after the first depend on the objects and are
not checked.  The faults are listed in a fixed order, and the first one is the
answer of a validation.
-/
import Wikilink.LinkType.Basic

namespace Wikilink

set_option autoImplicit false

namespace LinkType

/-- What is wrong with the start of a path. -/
def startFault? (schema : Schema) (name : String) : Option Misconfiguration :=
  if name = idField ∨ name = displayField then none
  else
    match schema.member? name with
    | none => some (.unknownField name schema.contentType)
    | some (.method (required + 1)) =>
        some (.methodNeedsArguments name schema.contentType (required + 1))
    | some _ => none

/-- What is wrong with a field path. -/
def pathFault? (schema : Schema) (path : String) : Option Misconfiguration :=
  if "" ∈ pathSegments path then some (.malformedPath path schema.contentType)
  else startFault? schema ((pathSegments path).headD "")

/-- What is wrong with a field-set. -/
def fieldSetFaults (schema : Schema) (fields : FieldSet) : List Misconfiguration :=
  if fields.paths.isEmpty then [.emptyFieldSet schema.contentType]
  else fields.paths.filterMap (pathFault? schema)

/-- What is wrong with an attribute that may be embedded. -/
def embedFault? (schema : Schema) (attr : String) : Option Misconfiguration :=
  if (schema.member? attr).isSome then none
  else some (.unknownAttribute attr schema.contentType)

/-- Everything that is wrong with a link type. -/
def faults (t : LinkType) : List Misconfiguration :=
  t.searched.flatMap (fieldSetFaults t.schema) ++
    t.embeddable.filterMap (embedFault? t.schema) ++
      if t.urlField.isEmpty then [.emptyUrlField] else []

/-- Fails with the first fault, if there is one. -/
def validate (t : LinkType) : Except Error Unit :=
  match t.faults with
  | [] => .ok ()
  | fault :: _ => .error (.misconfigured fault)

end LinkType

end Wikilink
