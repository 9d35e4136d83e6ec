import HttpAuth.Text.Basic
import HttpAuth.Binary64.Basic

/-!
# The shortest decimal text of a number

A finite number is written with the fewest digits that read back as the same number, and with those
nearest to it among texts of that length.  Positional notation is used for decimal exponents from
-4 to 15, and an integral number keeps one zero after the point.
-/

namespace HttpAuth
namespace Binary64

/-- Digits with the power of ten of the last one. -/
structure DecimalDigits where
  /-- The digits, read as one number. -/
  digits : Nat
  /-- Power of ten of the last digit. -/
  exponent : Int
  deriving Repr, DecidableEq

/-- A positive quotient between two bounds that read back as the same number. -/
structure RoundingInterval where
  /-- The number itself, over the common denominator. -/
  value : Nat
  /-- Lower bound, over the common denominator. -/
  low : Nat
  /-- Upper bound, over the common denominator. -/
  high : Nat
  /-- Common denominator. -/
  den : Nat
  /-- The bounds themselves read back as the number. -/
  closed : Bool
  deriving Repr, DecidableEq

/-- The quotients that round to a stored number. -/
def roundingInterval (mantissa : Nat) (exponent : Int) : RoundingInterval :=
  let up := Nat.pow 2 (exponent - 2).toNat
  let below := if mantissa = Nat.pow 2 52 ∧ exponent ≠ leastExponent then 1 else 2
  { value := 4 * mantissa * up
    low := (4 * mantissa - below) * up
    high := (4 * mantissa + 2) * up
    den := Nat.pow 2 (2 - exponent).toNat
    closed := mantissa % 2 == 0 }

namespace RoundingInterval

/-- The decimal exponent of the leading digit. -/
def leading (interval : RoundingInterval) : Int :=
  if interval.value ≥ interval.den then
    ((Nat.toDigits 10 (interval.value / interval.den)).length : Int) - 1
  else
    -((Nat.toDigits 10 (interval.den / interval.value)).length : Int)

/-- A decimal number lies in the interval. -/
def holds (interval : RoundingInterval) (number : DecimalDigits) : Bool :=
  let scaled := number.digits * Nat.pow 10 number.exponent.toNat * interval.den
  let low := interval.low * Nat.pow 10 (-number.exponent).toNat
  let high := interval.high * Nat.pow 10 (-number.exponent).toNat
  if interval.closed then low ≤ scaled && scaled ≤ high else low < scaled && scaled < high

/-- The value lies in the lower half of the step above a decimal number; undecided in the middle. -/
def belowHalf? (interval : RoundingInterval) (number : DecimalDigits) : Option Bool :=
  let step := Nat.pow 10 number.exponent.toNat * interval.den
  let value := interval.value * Nat.pow 10 (-number.exponent).toNat
  let twice := 2 * (value - number.digits * step)
  if twice = step then none else some (twice < step)

/-- The neighbour of the value on the grid of a decimal exponent, when one lies in the interval. -/
def onGrid? (interval : RoundingInterval) (exponent : Int) : Option DecimalDigits :=
  let digits :=
    interval.value * Nat.pow 10 (-exponent).toNat / (interval.den * Nat.pow 10 exponent.toNat)
  let below : DecimalDigits := ⟨digits, exponent⟩
  let above : DecimalDigits := ⟨digits + 1, exponent⟩
  match interval.holds below, interval.holds above with
  | false, false => none
  | true, false => some below
  | false, true => some above
  | true, true =>
      if (interval.belowHalf? below).getD (digits % 2 == 0) then some below else some above

/-- The first of the grids from a decimal exponent downwards that holds a number of the interval. -/
def firstGrid? (interval : RoundingInterval) (exponent : Int) : Nat → Option DecimalDigits
  | 0 => none
  | count + 1 =>
      match interval.onGrid? exponent with
      | some number => some number
      | none => interval.firstGrid? (exponent - 1) count

end RoundingInterval

/-- A decimal exponent with its sign and at least two digits. -/
def exponentText (exponent : Int) : Text :=
  let digits := Nat.toDigits 10 exponent.natAbs
  (if exponent < 0 then '-' else '+') :: (if digits.length < 2 then '0' :: digits else digits)

/-- Write digits whose leading one has a decimal exponent. -/
def decimalText (digits : Text) (leading : Int) : Text :=
  if leading < -4 ∨ leading ≥ 16 then
    digits.take 1 ++ (if digits.length > 1 then '.' :: digits.drop 1 else []) ++
      'e' :: exponentText leading
  else if leading < 0 then
    ['0', '.'] ++ List.replicate (-leading - 1).toNat '0' ++ digits
  else
    let whole := (leading + 1).toNat
    if digits.length ≤ whole then
      digits ++ List.replicate (whole - digits.length) '0' ++ ['.', '0']
    else
      digits.take whole ++ '.' :: digits.drop whole

/-- The shortest text of a positive stored number. -/
def positiveText (mantissa : Nat) (exponent : Int) : Text :=
  let interval := roundingInterval mantissa exponent
  match interval.firstGrid? interval.leading 17 with
  | none => []
  | some number =>
      let all := Nat.toDigits 10 number.digits
      decimalText (Text.dropTrailing '0' all) (number.exponent + all.length - 1)

/-- The shortest text of a number. -/
def text : Binary64 → Text
  | .nan => ['n', 'a', 'n']
  | .infinite negative => (if negative then ['-'] else []) ++ ['i', 'n', 'f']
  | .finite negative mantissa exponent =>
      (if negative then ['-'] else []) ++
        (if mantissa = 0 then ['0', '.', '0'] else positiveText mantissa exponent)

end Binary64
end HttpAuth
