/-
# Content.Value -- objects and the values of their fields

An object has an id, a text of its own (its *display*), fields by name, and
embeds, which turn an attribute and options into text or fail.  The value of a
field can be another object, so values and objects are defined together.

Two names are answered by every object: `pk` is the text of its id and
`to_string` its display; fields of these names are never reached on an object,
but are ordinary names in a mapping.
-/
import Wikilink.Decimal.Layout
import Wikilink.Error
import Wikilink.Json.Printer
import Wikilink.Mention.Basic

namespace Wikilink

set_option autoImplicit false

mutual

/-- The value of a field. -/
inductive Value where
  | null
  | text (s : String)
  /-- A signed 64-bit integer. -/
  | integer (n : Int)
  | float (x : Decimal.Binary64)
  | bool (b : Bool)
  /-- A related object. -/
  | item (object : Item)
  /-- Values under names. -/
  | map (entries : List (String × Value))

/-- An object that smartlinks can lead to. -/
structure Item where
  /-- Unique within the content type. -/
  id : Nat
  /-- The object's text of its own. -/
  display : String
  fields : List (String × Value)
  /-- What an attribute gives under the options of an embed. -/
  embed : String → EmbedOptions → Except Error String

end

instance : Inhabited Value := ⟨.null⟩

instance : Inhabited Item := ⟨⟨0, "", [], fun _ _ => .ok ""⟩⟩

/-- The name that every object answers with its id. -/
def idField : String := "pk"

/-- The name that every object answers with its display. -/
def displayField : String := "to_string"

namespace Item

/-- The value of a field, if the object has it. -/
def field? (o : Item) (name : String) : Option Value :=
  if name = idField then some (.text (toString o.id))
  else if name = displayField then some (.text o.display)
  else List.lookup name o.fields

/-- An object without embeds refuses every attribute. -/
def noEmbeds (attr : String) (_ : EmbedOptions) : Except Error String :=
  .error (.embedFailed attr "content type has no embeddable attributes")

end Item

namespace Value

/-- Whether the value is absent. -/
def isNull : Value → Bool
  | null => true
  | _ => false

/-- The value under a name: a field of an object or an entry of a mapping. -/
def get? : Value → String → Option Value
  | item o, name => o.field? name
  | map entries, name => List.lookup name entries
  | _, _ => none

/-- The text of a value in search keys and templates; absent values and mappings have none. -/
def toText : Value → String
  | null => ""
  | text s => s
  | integer n => toString n
  | float x => Decimal.Layout.plain.write x
  | bool b => if b then "true" else "false"
  | item o => o.display
  | map _ => ""

/-- The signed 64-bit integers end here. -/
def integerLimit : Int := Int.ofNat (Nat.pow 2 63)

mutual

/-- The value of JSON data.  An integer too large for a sign becomes floating, an array becomes
its compact text, and an object a mapping. -/
def ofJson : Json → Value
  | .null => .null
  | .bool b => .bool b
  | .int n => if n < integerLimit then .integer n else .float (.ofInt n)
  | .float x => .float x
  | .string s => .text s
  | .array items => .text (Json.array items).compact
  | .object members => .map (ofMembers members)

/-- The values of the members of an object. -/
def ofMembers : List (String × Json) → List (String × Value)
  | [] => []
  | (name, value) :: members => (name, ofJson value) :: ofMembers members

end

end Value

end Wikilink
