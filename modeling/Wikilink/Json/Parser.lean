/-
# Json.Parser -- reading JSON text

The text is one value with blanks (space, tab, line feed, carriage return)
allowed between the symbols.  Values nest at most 127 deep.  Control characters
must be escaped in strings, and an escaped surrogate must belong to a pair.
Where a name repeats within an object, its last value counts.
-/
import Wikilink.Json.Number

namespace Wikilink.Json

set_option autoImplicit false

/-- The text from its first symbol on. -/
def skipBlanks (cs : List Char) : List Char :=
  cs.dropWhile fun c => c = ' ' || c = '\t' || c = '\n' || c = '\r'

/-- The value of a hexadecimal digit. -/
def hexDigit? (c : Char) : Option Nat :=
  if c.isDigit then some (c.toNat - '0'.toNat)
  else if 'a' ≤ c ∧ c ≤ 'f' then some (c.toNat - 'a'.toNat + 10)
  else if 'A' ≤ c ∧ c ≤ 'F' then some (c.toNat - 'A'.toNat + 10)
  else none

/-- The value of four hexadecimal digits. -/
def fourHex? (a b c d : Char) : Option Nat := do
  return (((← hexDigit? a) * 16 + (← hexDigit? b)) * 16 + (← hexDigit? c)) * 16 + (← hexDigit? d)

/-- The character behind a backslash that stands for one character by itself. -/
def simpleEscape? : Char → Option Char
  | '"' => some '"'
  | '\\' => some '\\'
  | '/' => some '/'
  | 'b' => some '\x08'
  | 'f' => some '\x0c'
  | 'n' => some '\n'
  | 'r' => some '\r'
  | 't' => some '\t'
  | _ => none

/-- The character of a pair of surrogates. -/
def pairChar? (high low : Nat) : Option Char :=
  if 0xD800 ≤ high ∧ high < 0xDC00 ∧ 0xDC00 ≤ low ∧ low < 0xE000 then
    some (Char.ofNat (0x10000 + (high - 0xD800) * 0x400 + (low - 0xDC00)))
  else none

/-- The characters of a string up to its closing quote, and what follows the quote. -/
def stringBody? : List Char → Option (List Char × List Char)
  | [] => none
  | '"' :: rest => some ([], rest)
  | '\\' :: 'u' :: a :: b :: c :: d :: rest => do
      let unit ← fourHex? a b c d
      if 0xD800 ≤ unit ∧ unit < 0xE000 then
        match rest with
        | '\\' :: 'u' :: e :: f :: g :: h :: rest =>
            let ch ← pairChar? unit (← fourHex? e f g h)
            let (cs, after) ← stringBody? rest
            return (ch :: cs, after)
        | _ => none
      else
        let (cs, after) ← stringBody? rest
        return (Char.ofNat unit :: cs, after)
  | '\\' :: e :: rest => do
      let ch ← simpleEscape? e
      let (cs, after) ← stringBody? rest
      return (ch :: cs, after)
  | c :: rest => do
      guard (0x20 ≤ c.toNat ∧ c ≠ '\\')
      let (cs, after) ← stringBody? rest
      return (c :: cs, after)

/-- The deepest nesting of arrays and objects. -/
def depthLimit : Nat := 127

mutual

/-- The value at the start of a text.  `fuel` bounds the number of steps and `depth` the nesting
that is still allowed. -/
def value? : Nat → Nat → List Char → Option (Json × List Char)
  | 0, _, _ => none
  | fuel + 1, depth, cs =>
      match skipBlanks cs with
      | 'n' :: 'u' :: 'l' :: 'l' :: rest => some (.null, rest)
      | 't' :: 'r' :: 'u' :: 'e' :: rest => some (.bool true, rest)
      | 'f' :: 'a' :: 'l' :: 's' :: 'e' :: rest => some (.bool false, rest)
      | '"' :: rest => do
          let (s, after) ← stringBody? rest
          return (.string (String.ofList s), after)
      | '[' :: rest =>
          match depth with
          | 0 => none
          | depth + 1 =>
              match skipBlanks rest with
              | ']' :: after => some (.array [], after)
              | _ => do
                  let (items, after) ← items? fuel depth rest
                  return (.array items, after)
      | '{' :: rest =>
          match depth with
          | 0 => none
          | depth + 1 =>
              match skipBlanks rest with
              | '}' :: after => some (.object [], after)
              | _ => do
                  let (members, after) ← members? fuel depth rest
                  return (ofEntries members, after)
      | other => number? other

/-- The elements of an array, of which there is at least one more. -/
def items? : Nat → Nat → List Char → Option (List Json × List Char)
  | 0, _, _ => none
  | fuel + 1, depth, cs => do
      let (item, rest) ← value? fuel depth cs
      match skipBlanks rest with
      | ']' :: after => return ([item], after)
      | ',' :: more =>
          let (items, after) ← items? fuel depth more
          return (item :: items, after)
      | _ => none

/-- The members of an object, of which there is at least one more. -/
def members? : Nat → Nat → List Char → Option (List (String × Json) × List Char)
  | 0, _, _ => none
  | fuel + 1, depth, cs =>
      match skipBlanks cs with
      | '"' :: rest => do
          let (name, rest) ← stringBody? rest
          match skipBlanks rest with
          | ':' :: rest =>
              let (value, rest) ← value? fuel depth rest
              match skipBlanks rest with
              | '}' :: after => return ([(String.ofList name, value)], after)
              | ',' :: more =>
                  let (members, after) ← members? fuel depth more
                  return ((String.ofList name, value) :: members, after)
              | _ => none
          | _ => none
      | _ => none

end

/-- The value that a text holds. -/
def parse? (text : String) : Option Json := do
  let cs := text.toList
  -- each step but the last takes a symbol away
  let (value, rest) ← value? (2 * cs.length + 2) depthLimit cs
  guard (skipBlanks rest = [])
  return value

end Wikilink.Json
