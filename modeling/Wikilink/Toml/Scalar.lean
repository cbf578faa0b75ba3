/-
# Toml.Scalar -- numbers, truth values and dates

Digits may have single underscores between them.  An integer fits 64 bits with a
sign and may be written to the base sixteen, eight or two; a date or a time of day
is kept as its usual text under a name of its own.
-/
import Wikilink.Json.Parser
import Wikilink.Text.Basic

namespace Wikilink.Toml

set_option autoImplicit false

/-- A character of a number, a word or a date. -/
def inScalar (c : Char) : Bool :=
  c.isAlphanum || c = '+' || c = '-' || c = '_' || c = '.' || c = ':'

/-- The digits without the underscores, each of which stands between two digits. -/
def plainDigits? (isDigit : Char → Bool) : List Char → Option (List Char)
  | [] => none
  | [c] => if isDigit c then some [c] else none
  | c :: '_' :: rest => if isDigit c then (plainDigits? isDigit rest).map (c :: ·) else none
  | c :: rest => if isDigit c then (plainDigits? isDigit rest).map (c :: ·) else none

def sign : List Char → Bool × List Char
  | '-' :: cs => (true, cs)
  | '+' :: cs => (false, cs)
  | cs => (false, cs)

/-- The decimal digits of a number that has no needless zero in front. -/
def decimalDigits? (cs : List Char) : Option (List Char) := do
  let ds ← plainDigits? Char.isDigit cs
  guard (ds.head? ≠ some '0' ∨ ds.length = 1)
  return ds

/-- The integers end here. -/
def integerLimit : Int := Int.ofNat (Nat.pow 2 63)

/-- The integer of a sign and digits, if it is in range. -/
def integer? (negative : Bool) (base : Nat) (ds : List Char) : Option Json := do
  let values ← ds.mapM Json.hexDigit?
  let size := values.foldl (fun n d => n * base + d) 0
  let n : Int := if negative then -size else size
  guard (-integerLimit ≤ n ∧ n < integerLimit)
  return .int n

/-- A character of a digit to a base up to sixteen. -/
def isDigitOf (base : Nat) (c : Char) : Bool :=
  (Json.hexDigit? c).any (· < base)

/-- The integer written to the given base. -/
def based? (base : Nat) (cs : List Char) : Option Json := do
  integer? false base (← plainDigits? (isDigitOf base) cs)

/-- The floating number of a sign and a text without one; it has a point, an exponent or both.
Beyond the finite numbers a positive one is refused and a negative one is an infinity. -/
def floating? (negative : Bool) (cs : List Char) : Option Json := do
  let isMark := fun c : Char => c = 'e' || c = 'E'
  let significand := cs.takeWhile fun c => !isMark c
  let exponent := cs.dropWhile fun c => !isMark c
  guard (significand.length < cs.length ∨ '.' ∈ significand)
  let (whole, fraction) ← match Text.splitOnce? '.' significand with
    | none => do pure (← decimalDigits? significand, [])
    | some (whole, fraction) =>
        do pure (← decimalDigits? whole, ← plainDigits? Char.isDigit fraction)
  let power : Int ← match exponent with
    | [] => pure 0
    | _ :: rest => do
        let (negative, digits) := sign rest
        let size : Int := Json.ofDigits ((← plainDigits? Char.isDigit digits).map fun c =>
          c.toNat - '0'.toNat)
        pure (if negative then -size else size)
  let ds := (whole ++ fraction).map fun c => c.toNat - '0'.toNat
  -- beyond this power the number is zero or infinite whatever its digits are
  let limit : Int := 400 + ds.length
  let power := max (-limit) (min limit power)
  match Decimal.Binary64.ofDecimal negative (Json.ofDigits ds) (power - fraction.length) with
  | .infinite false => none
  | x => return .float x

def daysIn (year month : Nat) : Nat :=
  if month = 2 then
    if year % 4 = 0 ∧ (year % 100 ≠ 0 ∨ year % 400 = 0) then 29 else 28
  else if month = 4 ∨ month = 6 ∨ month = 9 ∨ month = 11 then 30
  else 31

/-- The number of a given count of digits. -/
def fixed? (count : Nat) (cs : List Char) : Option Nat :=
  if cs.length = count ∧ cs.all Char.isDigit then
    some (Json.ofDigits (cs.map fun c => c.toNat - '0'.toNat))
  else none

def isDate (cs : List Char) : Bool :=
  match (Text.split '-' cs) with
  | [y, m, d] =>
      match fixed? 4 y, fixed? 2 m, fixed? 2 d with
      | some year, some month, some day =>
          1 ≤ month && month ≤ 12 && 1 ≤ day && day ≤ daysIn year month
      | _, _, _ => false
  | _ => false

/-- Whether a text is a number of seconds, with a fraction or without. -/
def isSecond (cs : List Char) : Bool :=
  let (whole, fraction) := match Text.splitOnce? '.' cs with
    | none => (cs, ['0'])
    | some parts => parts
  (fixed? 2 whole).any (· ≤ 60) && !fraction.isEmpty && fraction.all Char.isDigit

def isTime (cs : List Char) : Bool :=
  match Text.split ':' cs with
  | [h, m, s] =>
      (fixed? 2 h).any (· < 24) && (fixed? 2 m).any (· < 60) && isSecond s
  | _ => false

/-- Whether a text is an offset from universal time. -/
def isOffset (cs : List Char) : Bool :=
  match cs with
  | [] => true
  | ['Z'] | ['z'] => true
  | c :: rest =>
      (c = '+' || c = '-') &&
        match Text.split ':' rest with
        | [h, m] => (fixed? 2 h).any (· < 24) && (fixed? 2 m).any (· < 60)
        | _ => false

/-- The usual text of a time of day: nine digits of a fraction at most, and no needless zeros. -/
def timeText (cs : List Char) : List Char :=
  match Text.splitOnce? '.' cs with
  | none => cs
  | some (whole, fraction) =>
      match ((fraction.take 9).reverse.dropWhile (· = '0')).reverse with
      | [] => whole
      | digits => whole ++ '.' :: digits

/-- The usual text of an offset from universal time. -/
def offsetText : List Char → List Char
  | ['z'] => ['Z']
  | ['-', '0', '0', ':', '0', '0'] => ['+', '0', '0', ':', '0', '0']
  | cs => cs

/-- The usual text of a date, a time of day, or both with an offset or without. -/
def moment? (cs : List Char) : Option (List Char) :=
  let date := cs.take 10
  if isTime cs then some (timeText cs)
  else if isDate date then
    match cs.drop 10 with
    | [] => some date
    | c :: rest =>
        let inTime := fun c : Char => c.isDigit || c = ':' || c = '.'
        let time := rest.takeWhile inTime
        let offset := rest.dropWhile inTime
        if (c = 'T' ∨ c = 't' ∨ c = ' ') ∧ isTime time ∧ isOffset offset then
          some (date ++ 'T' :: timeText time ++ offsetText offset)
        else none
  else none

/-- The name under which a date or a time of day stands where a table is wanted. -/
def momentName : String := "$__toml_private_datetime"

/-- The value of a sign and a number without one. -/
def signed? (negative : Bool) (cs : List Char) : Option Json :=
  match cs with
  | ['i', 'n', 'f'] => some (.float (.infinite negative))
  | ['n', 'a', 'n'] => some (.float .nan)
  | _ =>
      match decimalDigits? cs with
      | some ds => integer? negative 10 ds
      | none => floating? negative cs

/-- The value of a number, a truth value, a date or a time. -/
def scalarValue? (cs : List Char) : Option Json :=
  match cs with
  | ['t', 'r', 'u', 'e'] => some (.bool true)
  | ['f', 'a', 'l', 's', 'e'] => some (.bool false)
  | '0' :: 'x' :: ds => based? 16 ds
  | '0' :: 'o' :: ds => based? 8 ds
  | '0' :: 'b' :: ds => based? 2 ds
  | _ =>
      match moment? cs with
      | some text => some (.object [(momentName, .string (String.ofList text))])
      | none => signed? (sign cs).1 (sign cs).2

/-- The scalar at the start of a text.  A date may be followed by a space and a time. -/
def scalarText (cs : List Char) : List Char × List Char :=
  let word := cs.takeWhile inScalar
  match isDate word, cs.dropWhile inScalar with
  | true, ' ' :: c :: rest =>
      if c.isDigit then
        (word ++ ' ' :: (c :: rest).takeWhile inScalar, (c :: rest).dropWhile inScalar)
      else (word, ' ' :: c :: rest)
  | _, rest => (word, rest)

end Wikilink.Toml
