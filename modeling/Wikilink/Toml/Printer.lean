/-
# Toml.Printer -- writing a TOML document

One line for each member of the data, its value written inline.  Strings are
basic strings of one line.  TOML has no absent value, so absent members are left
out.
-/
import Wikilink.Json.Printer

namespace Wikilink.Toml

set_option autoImplicit false

/-- One character inside a basic string. -/
def escapeChar (c : Char) : List Char :=
  if c.toNat = 0x7F then ['\\', 'u', '0', '0', '7', 'F'] else Json.escapeChar c

/-- A text as a basic string. -/
def quote (s : String) : String :=
  String.ofList ('"' :: s.toList.flatMap escapeChar ++ ['"'])

/-- A floating number. -/
def floatText : Decimal.Binary64 → String
  | .nan => "nan"
  | x => Decimal.Layout.json.write x

mutual

/-- A value on one line. -/
def inlineText : Json → String
  | .null => quote ""
  | .bool b => if b then "true" else "false"
  | .int n => toString n
  | .float x => floatText x
  | .string s => quote s
  | .array items => "[" ++ ", ".intercalate (itemTexts items) ++ "]"
  | .object members => "\x7b" ++ ", ".intercalate (entryTexts members) ++ "\x7d"

/-- The elements of an array. -/
def itemTexts : List Json → List String
  | [] => []
  | item :: items => inlineText item :: itemTexts items

/-- The members that are present, each as a key and a value. -/
def entryTexts : List (String × Json) → List String
  | [] => []
  | (_, .null) :: members => entryTexts members
  | (name, value) :: members => (quote name ++ " = " ++ inlineText value) :: entryTexts members

end

/-- The document of the members of an object. -/
def write (members : List (String × Json)) : String :=
  String.join ((entryTexts members).map (· ++ "\n"))

end Wikilink.Toml
