/-
# Decimal.Layout -- writing a number down

The digits of a number say nothing about where the point stands or when an
exponent is used.  A `Layout` fixes these decisions once for an output format.
-/
import Wikilink.Decimal.Shortest

namespace Wikilink.Decimal

set_option autoImplicit false

/-- The decisions of a number format. -/
structure Layout where
  /-- Which decimal is taken when two are equally near. -/
  tie : Tie
  /-- The least and the greatest exponent of the leading digit that is written without exponent
  mark; all of them if absent. -/
  positional : Option (Int × Int)
  /-- What follows a whole number written without exponent. -/
  wholeEnd : String

/-- Plain text: never an exponent and no point in a whole number. -/
def Layout.plain : Layout :=
  ⟨.up, none, ""⟩

/-- A number inside compact JSON: a whole number ends in `.0`, and very large and very small
numbers have an exponent with a sign. -/
def Layout.json : Layout :=
  ⟨.even, some (-5, 15), ".0"⟩

/-- So many zeros. -/
def zeros (n : Nat) : String :=
  String.ofList (List.replicate n '0')

/-- Digits with the point after the first `n` of them, as far as there are that many. -/
def withPoint (digits : List Char) (n : Nat) : String :=
  String.ofList (digits.take n) ++ "." ++ String.ofList (digits.drop n)

namespace Layout

/-- The text of a positive decimal. -/
def writeDigits (l : Layout) (d : Digits) : String :=
  let digits := Nat.toDigits 10 d.digits
  let leading : Int := d.exponent + digits.length - 1
  let isPositional := match l.positional with
    | none => true
    | some (least, greatest) => least ≤ leading && leading ≤ greatest
  if isPositional then
    if leading < 0 then "0." ++ zeros (-leading - 1).toNat ++ String.ofList digits
    else if 0 ≤ d.exponent then String.ofList digits ++ zeros d.exponent.toNat ++ l.wholeEnd
    else withPoint digits (leading.toNat + 1)
  else
    let significand :=
      if digits.length ≤ 1 then String.ofList digits else withPoint digits 1
    significand ++ "e" ++ (if leading < 0 then "-" else "+") ++ toString leading.natAbs

/-- The text of a number. -/
def write (l : Layout) : Binary64 → String
  | .nan => "NaN"
  | .infinite negative => if negative then "-inf" else "inf"
  | .finite negative significand exponent =>
      let size :=
        if significand = 0 then "0" ++ l.wholeEnd
        else l.writeDigits (shortest l.tie significand exponent)
      if negative then "-" ++ size else size

end Layout

example : Layout.plain.write (.ofRatio true 1 10000000) = "-0.0000001" := by decide +kernel

example : Layout.json.write (.ofRatio false (Nat.pow 10 16) 1) = "1e+16" := by decide +kernel

end Wikilink.Decimal
