/-!
# Binary floating-point numbers of 64 bits

A finite number is a mantissa times a power of two, in the one form that the format stores: the
mantissa has 53 bits unless the exponent is the least one.  Rounding goes to the nearest number and
a tie to the even mantissa.
-/

namespace HttpAuth

/-- A number of the binary64 format. -/
inductive Binary64 where
  /-- The number `mantissa * 2 ^ exponent`, or its negative. -/
  | finite (negative : Bool) (mantissa : Nat) (exponent : Int)
  /-- An infinity. -/
  | infinite (negative : Bool)
  /-- No number. -/
  | nan
  deriving Repr, DecidableEq

namespace Binary64

/-- The least exponent of the format. -/
def leastExponent : Int := -1074

/-- The greatest exponent of the format. -/
def greatestExponent : Int := 971

/-- Zero without a sign. -/
def zero : Binary64 := .finite false 0 leastExponent

/-- A quotient rounded to the nearest natural number, a tie to the even one. -/
def roundedDiv (num den : Nat) : Nat :=
  let quotient := num / den
  let twice := 2 * (num % den)
  if twice > den ∨ (twice = den ∧ quotient % 2 = 1) then quotient + 1 else quotient

/-- A quotient divided by a power of two, as a quotient again. -/
def scaledDown (num den : Nat) (exponent : Int) : Nat × Nat :=
  (num * Nat.pow 2 (-exponent).toNat, den * Nat.pow 2 exponent.toNat)

/-- Put a rounded mantissa into the stored form. -/
def stored (negative : Bool) (mantissa : Nat) (exponent : Int) : Binary64 :=
  let (mantissa, exponent) :=
    if mantissa = Nat.pow 2 53 then (Nat.pow 2 52, exponent + 1) else (mantissa, exponent)
  if exponent > greatestExponent then .infinite negative else .finite negative mantissa exponent

/-- The number nearest to a quotient with positive denominator. -/
def ofRatio (negative : Bool) (num den : Nat) : Binary64 :=
  if num = 0 then
    .finite negative 0 leastExponent
  else
    let guess := (Nat.log2 num : Int) - Nat.log2 den - 53
    let (top, bottom) := scaledDown num den guess
    let fitted := if top / bottom ≥ Nat.pow 2 53 then guess + 1 else guess
    let exponent := max leastExponent fitted
    let (top, bottom) := scaledDown num den exponent
    stored negative (roundedDiv top bottom) exponent

/-- The number nearest to `digits * 10 ^ exponent`. -/
def ofDecimal (negative : Bool) (digits : Nat) (exponent : Int) : Binary64 :=
  let magnitude := exponent + (Nat.toDigits 10 digits).length
  if digits = 0 ∨ magnitude < -400 then
    .finite negative 0 leastExponent
  else if magnitude > 400 then
    .infinite negative
  else
    ofRatio negative (digits * Nat.pow 10 exponent.toNat) (Nat.pow 10 (-exponent).toNat)

/-- The number nearest to an integer. -/
def ofInt (value : Int) : Binary64 :=
  ofRatio (decide (value < 0)) value.natAbs 1

/-- The number is zero, with either sign. -/
def isZero : Binary64 → Bool
  | .finite _ mantissa _ => mantissa == 0
  | _ => false

/-- The number is zero or greater; a negative zero counts as zero. -/
def isNonnegative : Binary64 → Bool
  | .finite negative mantissa _ => !negative || mantissa == 0
  | .infinite negative => !negative
  | .nan => false

/-- The number as an integer, when it is one. -/
def toInt? : Binary64 → Option Int
  | .finite negative mantissa exponent =>
      let (top, bottom) := scaledDown mantissa 1 (-exponent)
      if top % bottom = 0 then
        some (if negative then -((top / bottom : Nat) : Int) else (top / bottom : Nat))
      else
        none
  | _ => none

end Binary64
end HttpAuth
