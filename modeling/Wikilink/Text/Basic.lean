/-
# Text.Basic -- trimming, splitting and measuring

Text is taken apart as a list of characters.  Trimming removes blanks at the two
ends, splitting keeps empty parts (a text always has one part more than it has
separators), and lengths that leave the library count bytes of the UTF-8 form.
-/
import Wikilink.Text.Class

namespace Wikilink.Text

set_option autoImplicit false

/-! ## Trimming -/

/-- The text without the blanks at its start. -/
def trimStart (s : List Char) : List Char :=
  s.dropWhile isBlank

/-- The text without the blanks at its end. -/
def trimEnd (s : List Char) : List Char :=
  (s.reverse.dropWhile isBlank).reverse

/-- The text without the blanks at either end. -/
def trim (s : List Char) : List Char :=
  trimEnd (trimStart s)

/-! ## Splitting -/

/-- The parts between the separators; an empty text is one empty part. -/
def split (separator : Char) : List Char → List (List Char)
  | [] => [[]]
  | c :: cs =>
      if c = separator then [] :: split separator cs
      else
        match split separator cs with
        | [] => [[c]]
        | part :: parts => (c :: part) :: parts

/-- The parts around the first separator, if there is one. -/
def splitOnce? (separator : Char) (s : List Char) : Option (List Char × List Char) :=
  match s.dropWhile (· ≠ separator) with
  | [] => none
  | _ :: after => some (s.takeWhile (· ≠ separator), after)

/-- The parts with the separator between each two of them. -/
def join (separator : Char) : List (List Char) → List Char
  | [] => []
  | [part] => part
  | part :: parts => part ++ separator :: join separator parts

/-- A line without the carriage return that belongs to its line feed. -/
def dropReturn (line : List Char) : List Char :=
  if line.getLast? = some '\r' then line.dropLast else line

/-- The lines of a text.  A line ends at a line feed, a carriage return right before it is part
of the line's end, and a text that ends in a line feed has no further, empty line. -/
def lines (s : List Char) : List (List Char) :=
  let parts := split '\n' s
  let closed := parts.dropLast.map dropReturn
  match parts.getLast? with
  | some (c :: cs) => closed ++ [c :: cs]
  | _ => closed

/-! ## Measuring -/

/-- The number of bytes of the UTF-8 form. -/
def byteLength : List Char → Nat
  | [] => 0
  | c :: cs => c.utf8Size + byteLength cs

/-- The text followed by as many spaces as it falls short of `width` characters. -/
def padEnd (width : Nat) (s : String) : String :=
  s ++ String.ofList (List.replicate (width - s.length) ' ')

/-- The text after as many spaces as it falls short of `width` characters. -/
def padStart (width : Nat) (s : String) : String :=
  String.ofList (List.replicate (width - s.length) ' ') ++ s

end Wikilink.Text
