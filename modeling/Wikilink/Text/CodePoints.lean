/-
# Text.CodePoints -- sets of code points as ascending ranges

A character property is a table of closed ranges that ascend and do not overlap.
Membership walks the table and stops at the first range that starts beyond the
code point, so the common characters at the start of a table are found at once.
-/

namespace Wikilink.Text

set_option autoImplicit false

/-- Closed ranges of code points, ascending and disjoint. -/
abbrev CodePoints := List (Nat × Nat)

/-- Whether one of the ranges holds `n`. -/
def CodePoints.contains : CodePoints → Nat → Bool
  | [], _ => false
  | (first, last) :: rest, n =>
      if n < first then false else if n ≤ last then true else contains rest n

end Wikilink.Text
