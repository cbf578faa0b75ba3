/-
# Json.Basic -- JSON data

A number written without point and exponent is an integer if it fits 64 bits,
with or without a sign; every other number is floating.  The members of an object
are kept in the order of their names, and a name occurs once.
-/
import Wikilink.Decimal.Binary64
import Wikilink.Table

namespace Wikilink

set_option autoImplicit false

/-- A JSON value. -/
inductive Json where
  | null
  | bool (b : Bool)
  /-- An integer from `-2 ^ 63` to `2 ^ 64 - 1`. -/
  | int (n : Int)
  | float (x : Decimal.Binary64)
  | string (s : String)
  | array (items : List Json)
  | object (members : List (String × Json))

namespace Json

/-- The value of a member, if there is one. -/
def member? : Json → String → Option Json
  | object members, name => Table.find? members name
  | _, _ => none

/-- The text of a string. -/
def string? : Json → Option String
  | string s => some s
  | _ => none

/-- The elements of an array. -/
def array? : Json → Option (List Json)
  | array items => some items
  | _ => none

/-- An integer that is not negative. -/
def nat? : Json → Option Nat
  | int n => if 0 ≤ n then some n.toNat else none
  | _ => none

/-- An object of the given entries. -/
def ofEntries (entries : List (String × Json)) : Json :=
  object (Table.ofList entries)

end Json

end Wikilink
