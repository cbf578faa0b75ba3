/-
# Text.Scan -- finding marked forms in running text

A recognizer looks at the start of a text and answers what form begins there and
how many characters it covers.  `pieces` walks a text from left to right and
tries the recognizer at each character that is not inside an earlier form and
does not follow an escape character; it keeps every other character as it is.
So forms are found leftmost first and never overlap, and the pieces written one
after the other are the text again.
-/
import Wikilink.Text.Basic

namespace Wikilink.Text

set_option autoImplicit false

/-- What begins at the start of a text, and the number of characters it covers. -/
abbrev Recognizer (α : Type) := List Char → Option (α × Nat)

/-- A character outside of every form, or a form with the text it covers. -/
inductive Piece (α : Type) where
  | char (c : Char)
  | form (covered : List Char) (value : α)

namespace Piece

variable {α : Type}

/-- The text of a piece. -/
def source : Piece α → List Char
  | char c => [c]
  | form covered _ => covered

/-- The form of a piece, if it is one. -/
def value? : Piece α → Option α
  | char _ => none
  | form _ value => some value

end Piece

section Walk

variable {α : Type} (recognize : Recognizer α) (escape : Option Char)

/-- The pieces of a text of which the first `skip` characters still belong to the form before it;
`escaped` tells whether an escape character comes right before the text. -/
def piecesAfter : Nat → Bool → List Char → List (Piece α)
  | _, _, [] => []
  | skip + 1, _, c :: cs => piecesAfter skip (escape == some c) cs
  | 0, escaped, c :: cs =>
      match if escaped then none else recognize (c :: cs) with
      | some (value, size) =>
          .form ((c :: cs).take size) value :: piecesAfter (size - 1) (escape == some c) cs
      | none => .char c :: piecesAfter 0 (escape == some c) cs

/-- The pieces of a text. -/
def pieces (s : List Char) : List (Piece α) :=
  piecesAfter recognize escape 0 false s

end Walk

/-- A form at a range of byte offsets: `start` is the offset of its first byte, `stop` the offset
just past its last. -/
structure Located (α : Type) where
  start : Nat
  stop : Nat
  value : α

/-- The forms among the pieces with their places, counted from the byte offset `offset`. -/
def locate {α : Type} (offset : Nat) : List (Piece α) → List (Located α)
  | [] => []
  | .char c :: rest => locate (offset + c.utf8Size) rest
  | .form covered value :: rest =>
      let stop := offset + byteLength covered
      ⟨offset, stop, value⟩ :: locate stop rest

/-- The pieces written out, each form as `write` puts it; the first failure ends the writing. -/
def substitute {α ε : Type} (write : α → Except ε String) : List (Piece α) → Except ε String
  | [] => .ok ""
  | .char c :: rest => do
      let text ← substitute write rest
      return String.singleton c ++ text
  | .form _ value :: rest => do
      let written ← write value
      let text ← substitute write rest
      return written ++ text

end Wikilink.Text
