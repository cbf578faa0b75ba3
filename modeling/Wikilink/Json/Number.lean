/-
# Json.Number -- reading a JSON number

An integer is read as it stands.  A floating number is read in two steps: the
leading digits that together fit 64 bits are the significand, and the power of
ten is applied to it by one multiplication or division with the floating number
nearest to that power.  Digits beyond 64 bits are dropped, before the point with
their place kept.  A number of up to fifteen digits and a small exponent is read
exactly; a longer one may come out as a neighbour of the nearest number.
-/
import Wikilink.Json.Basic

namespace Wikilink.Json

set_option autoImplicit false

open Decimal (Binary64)

/-- The greatest significand. -/
def significandLimit : Nat := Nat.pow 2 64 - 1

/-- The value of a decimal digit. -/
def digit? (c : Char) : Option Nat :=
  if c.isDigit then some (c.toNat - '0'.toNat) else none

/-- The digits at the start of a text and what follows them. -/
def digits : List Char → List Nat × List Char
  | [] => ([], [])
  | c :: cs =>
      match digit? c with
      | some d => let (ds, rest) := digits cs; (d :: ds, rest)
      | none => ([], c :: cs)

/-- The natural number of decimal digits. -/
def ofDigits (ds : List Nat) : Nat :=
  ds.foldl (fun n d => n * 10 + d) 0

/-- Appends digits to a significand as long as it stays within the limit: the significand and the
number of digits taken and left. -/
def accumulate (significand : Nat) : List Nat → Nat × Nat × Nat
  | [] => (significand, 0, 0)
  | d :: ds =>
      if significand * 10 + d ≤ significandLimit then
        let (result, taken, left) := accumulate (significand * 10 + d) ds
        (result, taken + 1, left)
      else (significand, 0, ds.length + 1)

/-- A number times a power of ten.  Powers beyond `10 ^ 308` are divided off first; there is no
answer where the result leaves the finite numbers. -/
def applyPower (x : Binary64) (exponent : Int) : Option Binary64 :=
  if exponent.natAbs ≤ 308 then
    if 0 ≤ exponent then
      match x.mul (.powTen exponent.toNat) with
      | .finite s m e => some (.finite s m e)
      | _ => none
    else some (x.div (.powTen (-exponent).toNat))
  else if x.isZero then some x
  else if 0 ≤ exponent then none
  else applyPower (x.div (.powTen 308)) (exponent + 308)
termination_by exponent.natAbs
decreasing_by omega

/-- The floating number of a significand and a power of ten. -/
def floating (negative : Bool) (significand : Nat) (exponent : Int) : Option Binary64 := do
  match ← applyPower (.ofRatio false significand 1) exponent with
  | .finite _ m e => some (.finite negative m e)
  | x => some x

/-- The greatest exponent that is still read as a number. -/
def exponentLimit : Nat := Nat.pow 2 31 - 1

/-- The exponent part at the start of a text, if one begins there: its value and the rest; `none`
if the exponent mark is followed by no digits. -/
def exponentPart? : List Char → Option (Option Int × List Char)
  | e :: rest =>
      if e = 'e' ∨ e = 'E' then
        let (negative, rest) := match rest with
          | '+' :: r => (false, r)
          | '-' :: r => (true, r)
          | r => (false, r)
        match digits rest with
        | ([], _) => none
        | (ds, after) =>
            let size : Int := ofDigits ds
            some (some (if negative then -size else size), after)
      else some (none, e :: rest)
  | [] => some (none, [])

/-- A floating number from its significand, the power of ten so far and the exponent part. -/
def withExponent (negative : Bool) (significand : Nat) (start : Int) (exponent : Option Int) :
    Option Binary64 :=
  match exponent with
  | none => floating negative significand start
  | some e =>
      if exponentLimit < e.natAbs then
        if significand ≠ 0 ∧ 0 < e then none else some (.zero negative)
      else
        let least : Int := -(exponentLimit : Int) - 1
        floating negative significand (max least (min exponentLimit (start + e)))

/-- The number at the start of a text, without its sign. -/
def unsigned? (negative : Bool) (cs : List Char) : Option (Json × List Char) := do
  let (whole, rest) := digits cs
  -- a leading zero stands alone
  guard (whole ≠ [] ∧ (whole.head? ≠ some 0 ∨ whole.length = 1))
  let (significand, _, dropped) := accumulate 0 whole
  match rest with
  | '.' :: fraction =>
      let (ds, rest) := digits fraction
      guard (ds ≠ [])
      let (significand, taken, _) := accumulate significand ds
      let (exponent, rest) ← exponentPart? rest
      let x ← withExponent negative significand ((dropped : Int) - taken) exponent
      return (.float x, rest)
  | _ =>
      let (exponent, rest) ← exponentPart? rest
      match exponent, dropped with
      | none, 0 =>
          if !negative then return (.int significand, rest)
          else if significand = 0 ∨ Nat.pow 2 63 < significand then
            return (.float (.ofRatio true significand 1), rest)
          else return (.int (-significand), rest)
      | _, _ =>
          let x ← withExponent negative significand dropped exponent
          return (.float x, rest)

/-- The number at the start of a text and what follows it. -/
def number? : List Char → Option (Json × List Char)
  | '-' :: cs => unsigned? true cs
  | cs => unsigned? false cs

end Wikilink.Json
