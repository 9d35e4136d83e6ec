import HttpAuth.Json.Basic
import HttpAuth.Literal
import HttpAuth.Hex

/-!
# Reading JSON

A reader of JSON texts that also takes `NaN` and the infinities.  It stops at the first fault,
which is reported by its place in the text, or where the text goes beyond a limit: at an integer
with too many digits, or at an array or object for which the call stack has no level left.  How many
levels are left depends on the caller, so that their number is an argument of the reader.
-/

namespace HttpAuth
namespace Json

/-- What is wrong at a place of a text. -/
inductive Fault where
  /-- The text starts with a byte order mark. -/
  | byteOrderMark
  /-- A value is missing. -/
  | value
  /-- The name of a member is missing. -/
  | name
  /-- The colon after a name is missing. -/
  | colon
  /-- The comma between items is missing. -/
  | comma
  /-- A string does not end. -/
  | unterminated
  /-- A string holds a control character. -/
  | control
  /-- A backslash is followed by a character that it does not escape. -/
  | escape
  /-- An escape lacks its four hexadecimal digits. -/
  | unicodeEscape
  /-- Something follows the value. -/
  | extra
  deriving Repr, DecidableEq

/-- The wording of a fault. -/
def Fault.message : Fault → String
  | .byteOrderMark => "Unexpected UTF-8 BOM (decode using utf-8-sig)"
  | .value => "Expecting value"
  | .name => "Expecting property name enclosed in double quotes"
  | .colon => "Expecting ':' delimiter"
  | .comma => "Expecting ',' delimiter"
  | .unterminated => "Unterminated string starting at"
  | .control => "Invalid control character at"
  | .escape => "Invalid \\escape"
  | .unicodeEscape => "Invalid \\uXXXX escape"
  | .extra => "Extra data"

/-- How a text goes beyond a limit of the reader. -/
inductive Excess where
  /-- An integer has too many digits. -/
  | digits (count : Nat)
  /-- An array is nested too deep. -/
  | array
  /-- An object is nested too deep. -/
  | object
  deriving Repr, DecidableEq

/-- The wording for a call stack that is full. -/
def fullStackMessage : String :=
  "maximum recursion depth exceeded"

/-- The wording of an excess. -/
def Excess.message : Excess → String
  | .digits count => Literal.tooLongMessage count
  | .array => fullStackMessage ++ " while decoding a JSON array from a unicode string"
  | .object => fullStackMessage ++ " while decoding a JSON object from a unicode string"

/-- Why the reader stops. -/
inductive Stop where
  /-- There is a fault where this rest of the text begins. -/
  | fault (fault : Fault) (rest : Text)
  /-- The text goes beyond a limit. -/
  | excess (excess : Excess)
  /-- There is a fault, and the call stack has too few levels left to report it. -/
  | unreported
  deriving Repr, DecidableEq

/-- The character is insignificant between tokens. -/
def isSpace (c : Char) : Bool :=
  c == ' ' || c == '\t' || c == '\n' || c == '\r'

theorem isSpace_iff {c : Char} : isSpace c = true ↔ c ∈ [' ', '\t', '\n', '\r'] := by
  simp [isSpace, or_assoc]

/-- Drop the insignificant characters at the start. -/
def skip (text : Text) : Text :=
  text.dropWhile isSpace

/-- The number that four hexadecimal digits at the start write. -/
def quad? : Text → Option Nat
  | a :: b :: c :: d :: _ => do
      return (((← Hex.value? a) * 16 + (← Hex.value? b)) * 16 + (← Hex.value? c)) * 16 +
        (← Hex.value? d)
  | _ => none

/-- The code point is the first half of a surrogate pair. -/
def isHighSurrogate (code : Nat) : Bool :=
  0xD800 ≤ code && code ≤ 0xDBFF

/-- The code point is the second half of a surrogate pair. -/
def isLowSurrogate (code : Nat) : Bool :=
  0xDC00 ≤ code && code ≤ 0xDFFF

/-- The code point that two halves of a pair denote. -/
def joinSurrogates (high low : Nat) : Nat :=
  0x10000 + (high - 0xD800) * 0x400 + (low - 0xDC00)

/-- The rest of a text begins with another numeric escape and goes on after it. -/
def startsEscape (text : Text) : Bool :=
  text.take 2 == ['\\', 'u'] && !(text.drop 6).isEmpty

/-- Read a numeric escape from its letter on.  The string must go on after the escape, and a second
escape is taken with the first when the two are a pair. -/
def numericEscape (text : Text) : Except Stop (Nat × Text) :=
  let after := text.drop 5
  match quad? (text.drop 1) with
  | none => .error (.fault .unicodeEscape text)
  | some code =>
      if after.isEmpty then
        .error (.fault .unicodeEscape text)
      else if isHighSurrogate code && startsEscape after then
        match quad? (after.drop 2) with
        | none => .error (.fault .unicodeEscape (after.drop 1))
        | some low =>
            if isLowSurrogate low then
              .ok (joinSurrogates code low, after.drop 6)
            else
              .ok (code, after)
      else
        .ok (code, after)

/-- The code point that a letter after a backslash denotes. -/
def escaped? : Char → Option Nat
  | '"' => some 0x22
  | '\\' => some 0x5C
  | '/' => some 0x2F
  | 'b' => some 0x08
  | 'f' => some 0x0C
  | 'n' => some 0x0A
  | 'r' => some 0x0D
  | 't' => some 0x09
  | _ => none

/-- Read one character or escape of a string, which does not begin with the closing quote. -/
def stringUnit (opening : Text) : Text → Except Stop (Nat × Text)
  | [] => .error (.fault .unterminated opening)
  | '\\' :: rest =>
      match rest with
      | [] => .error (.fault .unterminated opening)
      | c :: tail =>
          if c = 'u' then
            numericEscape rest
          else
            match escaped? c with
            | some code => .ok (code, tail)
            | none => .error (.fault .escape ('\\' :: rest))
  | c :: rest =>
      if c.toNat < 0x20 then .error (.fault .control (c :: rest)) else .ok (c.toNat, rest)

/-- Read the rest of a string and its closing quote, at most as many units as the bound says. -/
def stringRest (opening : Text) : Nat → Text → Except Stop (CodePoints × Text)
  | 0, _ => .error (.fault .unterminated opening)
  | bound + 1, text =>
      if text.head? = some '"' then
        .ok ([], text.drop 1)
      else do
        let (code, tail) ← stringUnit opening text
        let (codes, rest) ← stringRest opening bound tail
        return (code :: codes, rest)

/-- Read a string from its opening quote on, at most as many units as the bound says. -/
def quotedString (bound : Nat) (text : Text) : Except Stop (CodePoints × Text) :=
  stringRest text bound (text.drop 1)

/-- The digits of a fraction and the rest; a point without digits is no fraction. -/
def fractionPart : Text → Text × Text
  | '.' :: rest =>
      if (rest.takeWhile Char.isDigit).isEmpty then
        ([], '.' :: rest)
      else
        (rest.takeWhile Char.isDigit, rest.dropWhile Char.isDigit)
  | rest => ([], rest)

/-- The exponent and the rest; a mark without digits is no exponent. -/
def exponentPart : Text → Option Int × Text
  | [] => (none, [])
  | mark :: rest =>
      let (negative, body) := Literal.signed rest
      let digits := body.takeWhile Char.isDigit
      if (mark = 'e' ∨ mark = 'E') ∧ !digits.isEmpty then
        let magnitude : Int := Text.digitsValue digits
        (some (if negative then -magnitude else magnitude), body.dropWhile Char.isDigit)
      else
        (none, mark :: rest)

/-- The digits before a fraction: one zero, or digits that start with another digit. -/
def wholePart : Text → Text × Text
  | '0' :: rest => (['0'], rest)
  | rest => (rest.takeWhile Char.isDigit, rest.dropWhile Char.isDigit)

/-- Read a number. -/
def number (text : Text) : Except Stop (Json × Text) :=
  let negative := text.head? == some '-'
  let (whole, afterWhole) := wholePart (if negative then text.drop 1 else text)
  let (fraction, afterFraction) := fractionPart afterWhole
  let (exponent, rest) := exponentPart afterFraction
  if whole.isEmpty then
    .error (.fault .value text)
  else if fraction.isEmpty ∧ exponent.isNone then
    if whole.length > Text.digitLimit then
      .error (.excess (.digits whole.length))
    else
      let magnitude : Int := Text.digitsValue whole
      .ok (.integer (if negative then -magnitude else magnitude), rest)
  else
    .ok (.decimal (.ofDecimal negative (Text.digitsValue (whole ++ fraction))
      (exponent.getD 0 - fraction.length)), rest)

/-- The values that are written as words. -/
def words : List (Text × Json) :=
  [
    ("null".toList, .null), ("true".toList, .bool true), ("false".toList, .bool false),
    ("NaN".toList, .decimal .nan), ("Infinity".toList, .decimal (.infinite false)),
    ("-Infinity".toList, .decimal (.infinite true))
  ]

/-- Read a word or a number. -/
def scalar (text : Text) : Except Stop (Json × Text) :=
  match words.find? fun word => word.1.isPrefixOf text with
  | some word => .ok (word.2, text.drop word.1.length)
  | none => number text

/-- Levels of the call stack that the report of a fault takes. -/
def reportLevels : Nat := 3

/-- What comes of a reading inside an array or object, with the levels that are left there.  A
missing value is reported from the outside, but any other fault where it is found. -/
def reported {α : Type} (left : Nat) : Except Stop α → Except Stop α
  | .error (.fault fault rest) =>
      if fault = .value ∨ reportLevels ≤ left then .error (.fault fault rest)
      else .error .unreported
  | result => result

/-- Read inside an array or object, which takes one of the levels. -/
def enter {α : Type} (full : Excess) : Nat → (Nat → Except Stop α) → Except Stop α
  | 0, _ => .error (.excess full)
  | left + 1, read => reported left (read left)

mutual

/-- Read a value, at most as long as the bound and nested at most as deep as the levels. -/
def value : Nat → Nat → Text → Except Stop (Json × Text)
  | 0, _, text => .error (.fault .value text)
  | bound + 1, levels, text =>
      match text.head? with
      | some '"' => do
          let (codes, rest) ← quotedString bound text
          return (.string codes, rest)
      | some '[' =>
          enter .array levels fun left =>
            let inside := skip (text.drop 1)
            if inside.head? = some ']' then
              .ok (.array [], inside.drop 1)
            else do
              let (items, rest) ← elements bound left inside
              return (.array items, rest)
      | some '{' =>
          enter .object levels fun left =>
            let inside := skip (text.drop 1)
            if inside.head? = some '}' then
              .ok (.object [], inside.drop 1)
            else do
              let (pairs, rest) ← members bound left inside
              return (.object pairs, rest)
      | _ => scalar text

/-- Read the items of an array that is not empty, and the closing bracket. -/
def elements : Nat → Nat → Text → Except Stop (List Json × Text)
  | 0, _, text => .error (.fault .value text)
  | bound + 1, levels, text => do
      let (item, tail) ← value bound levels text
      let next := skip tail
      match next.head? with
      | some ']' => return ([item], next.drop 1)
      | some ',' => do
          let (items, rest) ← elements bound levels (skip (next.drop 1))
          return (item :: items, rest)
      | _ => .error (.fault .comma next)

/-- Read the members of an object that is not empty, and the closing brace. -/
def members : Nat → Nat → Text → Except Stop (List (CodePoints × Json) × Text)
  | 0, _, text => .error (.fault .name text)
  | bound + 1, levels, text =>
      if text.head? ≠ some '"' then
        .error (.fault .name text)
      else do
        let (name, afterName) ← quotedString bound text
        let colon := skip afterName
        if colon.head? ≠ some ':' then
          .error (.fault .colon colon)
        else do
          let (item, tail) ← value bound levels (skip (colon.drop 1))
          let next := skip tail
          match next.head? with
          | some '}' => return ([(name, item)], next.drop 1)
          | some ',' => do
              let (pairs, rest) ← members bound levels (skip (next.drop 1))
              return ((name, item) :: pairs, rest)
          | _ => .error (.fault .comma next)

end

/-- Read a whole text, with the levels of the call stack that are left besides those for the report
of a fault. -/
def document (levels : Nat) (text : Text) : Except Stop Json :=
  if text.head? = some (Char.ofNat 0xFEFF) then
    .error (.fault .byteOrderMark text)
  else do
    let (item, tail) ← value (2 * text.length + 2) (levels + reportLevels) (skip text)
    let rest := skip tail
    if rest.isEmpty then .ok item else .error (.fault .extra rest)

/-- A fault and its place. -/
structure Error where
  /-- What is wrong. -/
  fault : Fault
  /-- Index of the place. -/
  position : Nat
  /-- Line of the place, counted from one. -/
  line : Nat
  /-- Column of the place, counted from one. -/
  column : Nat
  deriving Repr, DecidableEq

/-- Locate the fault where a rest of a text begins. -/
def Error.locate (fault : Fault) (text rest : Text) : Error :=
  let before := text.take (text.length - rest.length)
  { fault
    position := before.length
    line := before.count '\n' + 1
    column := (before.reverse.takeWhile (· != '\n')).length + 1 }

/-- The wording of a fault and its place. -/
def Error.message (error : Error) : String :=
  error.fault.message ++ ": line " ++ toString error.line ++ " column " ++ toString error.column
    ++ " (char " ++ toString error.position ++ ")"

/-- Why a text has no value. -/
inductive ReadError where
  /-- The text is not JSON. -/
  | malformed (error : Error)
  /-- The text goes beyond a limit. -/
  | excess (excess : Excess)
  /-- The text is not JSON, which cannot be reported. -/
  | unreported
  deriving Repr, DecidableEq

/-- The value that a text writes, read with so many levels of the call stack left. -/
def parse (levels : Nat) (text : Text) : Except ReadError Json :=
  match document levels text with
  | .ok item => .ok item
  | .error (.fault fault rest) => .error (.malformed (.locate fault text rest))
  | .error (.excess excess) => .error (.excess excess)
  | .error .unreported => .error .unreported

end Json
end HttpAuth
