/-
# Decimal.Shortest -- the fewest digits that read back

Each finite number is the nearest one for an interval of reals around it, from
halfway to the number below to halfway to the number above; the ends belong to
the interval when the significand is even.  The shortest decimal of the number is
the decimal of fewest digits inside that interval, and among those the one
nearest to the number itself.

For a count of digits the candidates are the two neighbours of the number on the
grid of decimals with that many digits: if any grid point lies in the interval,
one of these does.  Seventeen digits always suffice.
-/
import Wikilink.Decimal.Binary64

namespace Wikilink.Decimal

set_option autoImplicit false

/-- A positive decimal `digits * 10 ^ exponent`. -/
structure Digits where
  digits : Nat
  exponent : Int
  deriving DecidableEq, Repr

/-- The number of decimal digits, none for zero. -/
def digitCount (n : Nat) : Nat :=
  if n = 0 then 0 else (Nat.toDigits 10 n).length

/-- The exponent of the greatest power of ten that is at most `num / den`. -/
def floorLog10 (num den : Nat) : Int :=
  if den ≤ num then (digitCount (num / den) : Int) - 1
  else -(digitCount ((den - 1) / num) : Int)

/-- Which of two decimals that are equally near is taken. -/
inductive Tie where
  | up
  | even
  deriving DecidableEq, Repr

/-- The interval that rounds to a positive number, in units of a quarter of its last place:
lower end, the number itself and upper end.  Below a power of two the numbers are twice as
dense, so there the lower end is nearer. -/
def roundingInterval (significand : Nat) (exponent : Int) : Nat × Nat × Nat :=
  let narrow := significand = Nat.pow 2 (Binary64.precision - 1) ∧ Binary64.leastExponent < exponent
  (4 * significand - (if narrow then 1 else 2), 4 * significand, 4 * significand + 2)

/-- The nearest grid point inside the interval among the decimals `n * 10 ^ grid`. -/
def gridPoint? (tie : Tie) (significand : Nat) (exponent grid : Int) : Option Nat :=
  let (lower, value, upper) := roundingInterval significand exponent
  -- a quarter of the last place and a step of the grid, on one common scale
  let (quarter, places) := scaleTwo 1 1 (exponent - 2)
  let (step, parts) := scaleTen 1 1 grid
  let quarter := quarter * parts
  let unit := step * places
  let inside := fun n : Nat =>
    if significand % 2 = 0 then lower * quarter ≤ n * unit ∧ n * unit ≤ upper * quarter
    else lower * quarter < n * unit ∧ n * unit < upper * quarter
  let below := value * quarter / unit
  let rest := value * quarter % unit
  let above := below + 1
  if rest = 0 then some below
  else if inside below ∧ inside above then
    if 2 * rest < unit then some below
    else if unit < 2 * rest then some above
    else match tie with
      | .up => some above
      | .even => some (below + below % 2)
  else if inside below then some below
  else if inside above then some above
  else none

/-- The decimal without zeros at its end. -/
def Digits.normalize : Nat → Digits → Digits
  | 0, d => d
  | k + 1, d =>
      if d.digits % 10 = 0 ∧ d.digits ≠ 0 then
        Digits.normalize k ⟨d.digits / 10, d.exponent + 1⟩
      else d

/-- The first grid with a point in the interval, from `count` digits upwards. -/
def firstGrid (tie : Tie) (significand : Nat) (exponent leading : Int) (count : Nat) :
    Nat → Digits
  | 0 => ⟨significand, 0⟩
  | left + 1 =>
      let grid := leading - count + 1
      match gridPoint? tie significand exponent grid with
      | some n => Digits.normalize 17 ⟨n, grid⟩
      | none => firstGrid tie significand exponent leading (count + 1) left

/-- The shortest decimal that reads back as the positive number. -/
def shortest (tie : Tie) (significand : Nat) (exponent : Int) : Digits :=
  let (num, den) := Binary64.ratio significand exponent
  firstGrid tie significand exponent (floorLog10 num den) 1 17

end Wikilink.Decimal
