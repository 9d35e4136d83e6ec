import HttpAuth.Binary64.Basic
import HttpAuth.Text.Case
import HttpAuth.Text.Digit
import HttpAuth.Text.Quoted

/-!
# Number literals

Integers and floating-point numbers written with the decimal digits of any script.  A single
underscore may stand between two digits.
-/

namespace HttpAuth
namespace Literal

/-- Why a text is not an integer. -/
inductive IntegerFault where
  /-- The text is not an integer literal. -/
  | malformed
  /-- The literal has more digits than the limit. -/
  | tooLong (digits : Nat)
  deriving Repr, DecidableEq

/-- The wording of an integer with too many digits. -/
def tooLongMessage (digits : Nat) : String :=
  "Exceeds the limit (" ++ toString Text.digitLimit
    ++ " digits) for integer string conversion: value has " ++ toString digits
    ++ " digits; use sys.set_int_max_str_digits() to increase the limit"

/-- Every underscore stands between two ASCII digits; the flag tells whether a digit precedes. -/
def underscoresBetweenDigits (afterDigit : Bool) : Text → Bool
  | [] => true
  | c :: rest =>
      if c = '_' then
        afterDigit && (rest.head?.map (·.isDigit)).getD false &&
          underscoresBetweenDigits false rest
      else
        underscoresBetweenDigits c.isDigit rest

/-- A sign and the text after it; a text without a sign is positive. -/
def signed : Text → Bool × Text
  | '-' :: rest => (true, rest)
  | '+' :: rest => (false, rest)
  | rest => (false, rest)

/-- Read an integer literal. -/
def integer (text : Text) : Except IntegerFault Int :=
  let (negative, body) := signed (text.map Text.asciiDigit)
  let front := body.takeWhile fun c => c.isDigit || c == '_'
  let digits := front.filter (·.isDigit)
  if digits.isEmpty ∨ !underscoresBetweenDigits false front then
    .error .malformed
  else if digits.length > Text.digitLimit then
    .error (.tooLong digits.length)
  else if front.length < body.length then
    .error .malformed
  else
    let magnitude : Int := Text.digitsValue digits
    .ok (if negative then -magnitude else magnitude)

/-- An exponent part: its mark, an optional sign and digits up to the end of the text. -/
def exponent? : Text → Option Int
  | [] => some 0
  | mark :: rest =>
      let (negative, digits) := signed rest
      if (mark = 'e' ∨ mark = 'E') ∧ !digits.isEmpty ∧ digits.all (·.isDigit) then
        let magnitude : Int := Text.digitsValue digits
        some (if negative then -magnitude else magnitude)
      else
        none

/-- Read an unsigned floating-point literal of ASCII characters without underscores. -/
def unsigned? (negative : Bool) (body : Text) : Option Binary64 :=
  let word := Text.lower body
  if word = "inf".toList ∨ word = "infinity".toList then
    some (.infinite negative)
  else if word = "nan".toList then
    some .nan
  else
    let whole := body.takeWhile (·.isDigit)
    let afterWhole := body.drop whole.length
    let (fraction, tail) :=
      match afterWhole with
      | '.' :: rest => (rest.takeWhile Char.isDigit, rest.dropWhile Char.isDigit)
      | rest => ([], rest)
    if whole.isEmpty ∧ fraction.isEmpty then
      none
    else
      (exponent? tail).map fun exponent =>
        .ofDecimal negative (Text.digitsValue (whole ++ fraction)) (exponent - fraction.length)

/-- Read a floating-point literal. -/
def binary64? (text : Text) : Option Binary64 :=
  let ascii := text.map Text.asciiDigit
  if underscoresBetweenDigits false ascii then
    let (negative, body) := signed (ascii.filter (· != '_'))
    unsigned? negative body
  else
    none

/-- The wording of a text that is not an integer; a long quotation is cut. -/
def malformedIntegerMessage (text : Text) : String :=
  "invalid literal for int() with base 10: " ++ String.ofList ((Text.quoted text).take 200)

/-- The wording of a text that is not a floating-point number. -/
def malformedBinary64Message (text : Text) : String :=
  "could not convert string to float: " ++ String.ofList (Text.quoted text)

end Literal
end HttpAuth
