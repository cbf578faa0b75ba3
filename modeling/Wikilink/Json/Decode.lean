/-
# Json.Decode -- structures out of JSON data

A structure is read from an object by the names of its fields, or from an array
by their order.  A field is required, has a default that counts where it is
missing, or is optional, and then a null counts as missing too.  Names that the
structure does not know are passed over; elements of an array beyond the last
field are passed over or refused, as the format of the data wants it.
-/
import Wikilink.Json.Basic

namespace Wikilink.Json

set_option autoImplicit false

/-- A way to read JSON data; `none` if the data has another shape. -/
abbrev Decoder (α : Type) := Json → Option α

/-- The fields of a structure as they are given. -/
abbrev Fields := Nat → String → Option Json

/-- What becomes of the elements of an array beyond the last field of a structure. -/
inductive Surplus where
  | refused
  | ignored
  deriving DecidableEq, Repr

/-- The `count` fields of a structure in an object or an array. -/
def fields? (surplus : Surplus) (count : Nat) : Json → Option Fields
  | object members => some fun _ name => Table.find? members name
  | array items =>
      if surplus = .refused ∧ count < items.length then none else some fun i _ => items[i]?
  | _ => none

variable {α : Type}

/-- A required field. -/
def required (decode : Decoder α) (given : Option Json) : Option α :=
  given.bind decode

/-- A field with a default. -/
def withDefault (default : α) (decode : Decoder α) : Option Json → Option α
  | none => some default
  | some j => decode j

/-- An optional field. -/
def optional (decode : Decoder α) : Option Json → Option (Option α)
  | none => some none
  | some null => some none
  | some j => (decode j).map some

/-- An array of values of one kind. -/
def list? (decode : Decoder α) (j : Json) : Option (List α) :=
  j.array?.bind (·.mapM decode)

/-- An array of strings. -/
def strings? : Decoder (List String) :=
  list? string?

/-- An object whose members are strings. -/
def stringTable? : Decoder (Table String)
  | object members => members.mapM fun (name, j) => j.string?.map fun s => (name, s)
  | _ => none

/-- An optional text as data. -/
def ofOption : Option String → Json
  | none => null
  | some s => string s

/-- Texts as data. -/
def ofStrings (texts : List String) : Json :=
  array (texts.map string)

end Wikilink.Json
