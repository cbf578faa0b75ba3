/-
# LinkField -- a stored value that holds one smartlink

Such a value comes from a form field.  Bare text is put into brackets; the link
is then read from the start of the value, blanks before it aside.  Validation
accepts empty values, and otherwise wants a link or an embed at the start.
-/
import Wikilink.Site.Rendering

namespace Wikilink

set_option autoImplicit false

/-- A value that holds one smartlink. -/
structure LinkField where
  raw : String
  deriving DecidableEq, Repr

namespace LinkField

/-- Input without blanks around it, in brackets unless it is empty or begins with one. -/
def normalize (input : List Char) : List Char :=
  match Text.trim input with
  | [] => []
  | '[' :: cs => '[' :: cs
  | cs => "[[ ".toList ++ cs ++ " ]]".toList

/-- The field of what a user put in. -/
def ofInput (input : String) : LinkField :=
  ⟨String.ofList (normalize input.toList)⟩

/-- The size of the value in bytes. -/
def size (field : LinkField) : Nat :=
  Text.byteLength field.raw.toList

/-- Whether there is no value. -/
def isEmpty (field : LinkField) : Bool :=
  field.raw.isEmpty

/-- The text of the link, if the value is one. -/
def label? (field : LinkField) : Option String :=
  (Mention.Form.link.parse? (String.ofList (Text.trimStart field.raw.toList))).map Mention.label

section Site

variable {ι : Type} [DecidableEq ι] (site : Site ι)

/-- The object that the link leads to. -/
def object? (field : LinkField) : Except Error (Option Item) := do
  return (← site.objectFor field.raw).map Prod.snd

/-- The URL of that object, empty if there is none. -/
def url (field : LinkField) : Except Error String := do
  return (← site.urlFor field.raw).getD ""

/-- The value with its mentions replaced. -/
def rendered (field : LinkField) : Except Error String :=
  site.process field.raw

/-- Checks that a value holds a smartlink and, if asked to, that it leads to one object. -/
def validate (verifyExists : Bool) (value : String) : Except Error Unit :=
  let value := Text.trim value.toList
  if value.isEmpty then .ok ()
  else
    match Mention.parse? (String.ofList value) with
    | none => .error (.refused .notASmartlink)
    | some m =>
        if verifyExists then do
          match ← site.resolve m.typeHint m.query with
          | .found _ _ => return ()
          | _ => .error (.refused .unresolvedSmartlink)
        else .ok ()

end Site

end LinkField

end Wikilink
