/-
# Content.Schema -- the members of a content type

A schema names the content type and says which names its objects answer: stored
fields, and methods with the number of arguments they need.
-/
import Wikilink.Table

namespace Wikilink

set_option autoImplicit false

/-- A member of a content type. -/
inductive Member where
  | field
  | method (required : Nat)
  deriving DecidableEq, Repr

/-- A content type and its members. -/
structure Schema where
  contentType : String
  members : Table Member := []

namespace Schema

/-- The member of a name, if the content type has it. -/
def member? (s : Schema) (name : String) : Option Member :=
  s.members.find? name

/-- The schema with a member; a later member of a name replaces an earlier one. -/
def declare (s : Schema) (name : String) (member : Member) : Schema :=
  { s with members := s.members.insert name member }

/-- The schema with stored fields of the given names. -/
def declareFields (s : Schema) (names : List String) : Schema :=
  names.foldl (fun s name => s.declare name .field) s

end Schema

end Wikilink
