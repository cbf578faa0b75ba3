/-
# Records -- objects out of JSON data

A list of JSON objects, each with an id of its own, makes the objects of a content
type.  Their fields are the members, the id included.  Their display and their
embeds are templates over the fields; an embed can use the options of its mention
as well, the positional ones under their numbers.  A field without a template of
its own can be embedded by itself.
-/
import Wikilink.Content.Schema
import Wikilink.Content.Source
import Wikilink.Template.Render

namespace Wikilink

set_option autoImplicit false

/-- What the objects of a content type are made of besides their data. -/
structure RecordFormat where
  contentType : String
  /-- The declared fields; if there are none, every name that occurs in the data is a field. -/
  fields : List String := []
  /-- The template of the display. -/
  display : Option Template := none
  /-- The templates of the embeds. -/
  embeds : Table Template := []
  /-- The field that tells which records are in scope; without it all are. -/
  scopeField : Option String := none

/-- What is wrong with a list of records. -/
inductive RecordFault where
  | notAnObject (position : Nat)
  | noId (position : Nat)
  | duplicateId (id : Nat) (contentType : String)
  deriving DecidableEq, Repr

/-- The wording of a fault. -/
def RecordFault.message : RecordFault → String
  | notAnObject position => s!"record #{position} is not a JSON object"
  | noId position => s!"record #{position} has no numeric id"
  | duplicateId id contentType => s!"duplicate id {id} in records of '{contentType}'"

/-- The members of a JSON object. -/
abbrev Members := List (String × Json)

namespace Members

/-- The text of a member. -/
def text (value : Json) : String :=
  (Value.ofJson value).toText

/-- The members as names of a template. -/
def context (members : Members) : Context :=
  members.foldl (fun c m => c.withText m.1 (text m.2)) []

end Members

/-- Whether a JSON value counts as true: it is neither absent nor false, zero or empty. -/
def Json.isTruthy : Json → Bool
  | .null => false
  | .bool b => b
  | .int n => n ≠ 0
  | .float x => !x.isZero
  | .string s => !s.isEmpty
  | .array items => !items.isEmpty
  | .object members => !members.isEmpty

namespace RecordFormat

/-! ## One record -/

/-- The display of a record. -/
def displayOf (f : RecordFormat) (id : Nat) (members : Members) : String :=
  match f.display with
  | some template => template.plain members.context
  | none => s!"{f.contentType} #{id}"

/-- The names of an embed's template: the members, the positional options under their numbers and
the named options, a later name in place of an earlier one. -/
def embedContext (members : Members) (options : EmbedOptions) : Context :=
  let numbered := options.positional.zipIdx.map fun (value, i) => (toString i, value)
  (numbered ++ options.named).foldl (fun c option => c.withText option.1 option.2) members.context

/-- What an attribute of a record gives. -/
def embed (f : RecordFormat) (members : Members) (attr : String) (options : EmbedOptions) :
    Except Error String :=
  match f.embeds.find? attr with
  | some template => .ok (template.html (embedContext members options))
  | none =>
      match List.lookup attr members with
      | some value =>
          if options.isEmpty then .ok (Text.escapeHtml (Members.text value))
          else .error (.embedFailed attr "fields take no options")
      | none =>
          .error (.embedFailed attr s!"no such field or embed on '{f.contentType}'")

/-- The object of a record. -/
def item (f : RecordFormat) (id : Nat) (members : Members) : Item where
  id := id
  display := f.displayOf id members
  fields := Value.ofMembers members
  embed := f.embed members

/-! ## All records -/

/-- The members and the id of the record at a position. -/
def membersAt (position : Nat) : Json → Except RecordFault (Nat × Members)
  | .object members =>
      match (List.lookup "id" members).bind Json.nat? with
      | some id => .ok (id, members)
      | none => .error (.noId position)
  | _ => .error (.notAnObject position)

/-- The records from a position on; `seen` holds the ids before it. -/
def readFrom (f : RecordFormat) (position : Nat) (seen : List Nat) :
    List Json → Except RecordFault (List (Nat × Members))
  | [] => .ok []
  | value :: values => do
      let (id, members) ← membersAt position value
      if id ∈ seen then .error (.duplicateId id f.contentType)
      return (id, members) :: (← f.readFrom (position + 1) (id :: seen) values)

/-- Whether a record is in scope. -/
def admits (f : RecordFormat) (members : Members) : Bool :=
  match f.scopeField with
  | none => true
  | some field => ((List.lookup field members).map Json.isTruthy).getD false

/-- The schema of the records: their fields, and the embeds as methods without arguments. -/
def schemaOf (f : RecordFormat) (records : List (Nat × Members)) : Schema :=
  let names :=
    if f.fields.isEmpty then records.flatMap fun r => r.2.map Prod.fst else f.fields
  f.embeds.names.foldl (fun s name => s.declare name (.method 0))
    ((Schema.mk f.contentType []).declareFields names)

/-- The objects of the records. -/
def sourceOf (f : RecordFormat) (records : List (Nat × Members)) : Source :=
  let admitted := (records.filter fun r => f.admits r.2).map Prod.fst
  records.foldl (fun s r => s.insert (f.item r.1 r.2)) { inScope := fun o => o.id ∈ admitted }

/-- The schema and the objects of a list of JSON values. -/
def read (f : RecordFormat) (values : List Json) : Except RecordFault (Schema × Source) := do
  let records ← f.readFrom 0 [] values
  return (f.schemaOf records, f.sourceOf records)

end RecordFormat

end Wikilink
