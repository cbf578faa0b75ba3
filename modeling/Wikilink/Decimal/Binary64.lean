/-
# Decimal.Binary64 -- 64-bit binary floating-point numbers

A finite number is a sign, a significand below `2 ^ 53` and an exponent, and it
stands for `significand * 2 ^ exponent`.  The exponent is the least possible one,
or the significand has all 53 bits; so each value has one representation apart
from the sign of zero.

Every operation computes the exact quotient of two natural numbers and rounds it
once, to the nearest representable number and a half to the even significand.
-/

namespace Wikilink.Decimal

set_option autoImplicit false

/-- A binary floating-point number of 64 bits. -/
inductive Binary64 where
  | nan
  | infinite (negative : Bool)
  | finite (negative : Bool) (significand : Nat) (exponent : Int)
  deriving DecidableEq, Repr

/-- The quotient to the nearest natural number, a half to the even one. -/
def roundHalfEven (num den : Nat) : Nat :=
  let quotient := num / den
  let twice := 2 * (num % den)
  if twice < den then quotient
  else if den < twice then quotient + 1
  else quotient + quotient % 2

/-- The fraction `num / den * 2 ^ e` as numerator and denominator. -/
def scaleTwo (num den : Nat) (e : Int) : Nat × Nat :=
  (num * Nat.pow 2 e.toNat, den * Nat.pow 2 (-e).toNat)

/-- The fraction `num / den * 10 ^ e` as numerator and denominator. -/
def scaleTen (num den : Nat) (e : Int) : Nat × Nat :=
  (num * Nat.pow 10 e.toNat, den * Nat.pow 10 (-e).toNat)

namespace Binary64

/-- The exponent of the least positive number. -/
def leastExponent : Int := -1074

/-- The exponent of the greatest finite number. -/
def greatestExponent : Int := 971

/-- The number of bits of a full significand. -/
def precision : Nat := 53

/-- Zero with a sign. -/
def zero (negative : Bool) : Binary64 :=
  .finite negative 0 leastExponent

/-- The exponent of the greatest power of two that is at most `num / den`. -/
def floorLog2 (num den : Nat) : Int :=
  let estimate : Int := num.log2 - den.log2
  let (n, d) := scaleTwo num den (-estimate)
  if d ≤ n then estimate else estimate - 1

/-- The number nearest to `num / den`. -/
def ofRatio (negative : Bool) (num den : Nat) : Binary64 :=
  if num = 0 ∨ den = 0 then zero negative
  else
    let exponent := max (floorLog2 num den - (precision - 1)) leastExponent
    let (n, d) := scaleTwo num den (-exponent)
    let significand := roundHalfEven n d
    let (significand, exponent) :=
      if significand = Nat.pow 2 precision then (Nat.pow 2 (precision - 1), exponent + 1)
      else (significand, exponent)
    if greatestExponent < exponent then .infinite negative
    else .finite negative significand exponent

/-- The number nearest to an integer. -/
def ofInt (n : Int) : Binary64 :=
  ofRatio (n < 0) n.natAbs 1

/-- The number nearest to `significand * 10 ^ exponent`. -/
def ofDecimal (negative : Bool) (significand : Nat) (exponent : Int) : Binary64 :=
  let (num, den) := scaleTen significand 1 exponent
  ofRatio negative num den

/-- The number nearest to a power of ten. -/
def powTen (k : Nat) : Binary64 :=
  ofRatio false (Nat.pow 10 k) 1

/-- The sign; NaN counts as positive. -/
def isNegative : Binary64 → Bool
  | nan => false
  | infinite negative => negative
  | finite negative _ _ => negative

/-- Either zero. -/
def isZero : Binary64 → Bool
  | finite _ significand _ => significand = 0
  | _ => false

/-- The size of a finite number as a fraction. -/
def ratio (significand : Nat) (exponent : Int) : Nat × Nat :=
  scaleTwo significand 1 exponent

/-- The product, rounded once. -/
def mul : Binary64 → Binary64 → Binary64
  | finite s m p, finite t n q =>
      let (num, den) := ratio (m * n) (p + q)
      ofRatio (s != t) num den
  | nan, _ | _, nan => nan
  | x, y => if x.isZero || y.isZero then nan else infinite (x.isNegative != y.isNegative)

/-- The quotient, rounded once. -/
def div : Binary64 → Binary64 → Binary64
  | nan, _ | _, nan => nan
  | infinite _, infinite _ => nan
  | infinite s, finite t _ _ => infinite (s != t)
  | finite s _ _, infinite t => zero (s != t)
  | finite s m p, finite t n q =>
      if n = 0 then (if m = 0 then nan else infinite (s != t))
      else
        let (num, den) := scaleTwo m n (p - q)
        ofRatio (s != t) num den

end Binary64

end Wikilink.Decimal
