import HttpAuth.Challenge.Basic
import HttpAuth.Text.Blank

/-!
# Reading a challenge

A challenge is a scheme and, after blanks, elements between commas.  A comma inside a quoted string
does not end an element, and a backslash inside one protects the next character.  An element is a
parameter: a name, an equals sign, and a bare or quoted value.
-/

namespace HttpAuth
namespace Challenge

/-- Why a text is no challenge. -/
inductive Error where
  /-- The text is blank. -/
  | empty
  /-- A quoted string is still open at the end. -/
  | unterminated (text : Text)
  /-- An element has no equals sign. -/
  | noValue (element : Text)
  /-- An element has nothing before its equals sign. -/
  | noName (element : Text)
  /-- The name of a parameter is no token. -/
  | badName (name : Text)
  /-- A value starts with a quote and does not end with one. -/
  | badQuoted (element : Text)
  deriving Repr, DecidableEq

/-- The wording of an error. -/
def Error.message : Error → String
  | .empty => "Empty WWW-Authenticate value"
  | .unterminated text =>
      "Unterminated quoted string in challenge: " ++ String.ofList (Text.quoted text)
  | .noValue element =>
      "Challenge parameter without value: " ++ String.ofList (Text.quoted element)
  | .noName element =>
      "Challenge parameter without name: " ++ String.ofList (Text.quoted element)
  | .badName name => "Invalid challenge parameter name: " ++ String.ofList (Text.quoted name)
  | .badQuoted element => "Malformed quoted value: " ++ String.ofList (Text.quoted element)

/-- Where a reader of elements stands. -/
inductive Mode where
  /-- Outside quoted strings. -/
  | plain
  /-- Inside a quoted string. -/
  | quoted
  /-- Inside a quoted string, after a backslash. -/
  | escaped
  deriving Repr, DecidableEq

/-- Where a reader stands after one more character. -/
def Mode.next : Mode → Char → Mode
  | .escaped, _ => .quoted
  | .quoted, c => if c = '\\' then .escaped else if c = '"' then .plain else .quoted
  | .plain, c => if c = '"' then .quoted else .plain

/-- Put a character before the first piece. -/
def extendFirst (c : Char) : List Text → List Text
  | [] => [[c]]
  | piece :: others => (c :: piece) :: others

/-- The pieces between commas outside quoted strings; none when a quoted string stays open. -/
def cutElements? (mode : Mode) : Text → Option (List Text)
  | [] => if mode = .plain then some [[]] else none
  | c :: rest =>
      if mode = .plain ∧ c = ',' then
        (cutElements? .plain rest).map ([] :: ·)
      else
        (cutElements? (mode.next c) rest).map (extendFirst c)

/-- The trimmed elements of a text that are not blank. -/
def elements (text : Text) : Except Error (List Text) :=
  match cutElements? .plain text with
  | none => .error (.unterminated text)
  | some pieces => .ok ((pieces.map Text.trim).filter (!·.isEmpty))

/-- The marks that may stand in a token besides letters and digits. -/
def tokenMarks : List Char :=
  "!#$%&'*+.^_\x60|~-".toList

/-- The character may stand in a token. -/
def isTokenChar (c : Char) : Bool :=
  c.isAlphanum || tokenMarks.contains c

/-- The text is a token. -/
def isToken (text : Text) : Bool :=
  !text.isEmpty && text.all isTokenChar

/-- Replace a backslash and the character after it by that character, a line feed excepted. -/
def unescape : Text → Text
  | [] => []
  | [c] => [c]
  | c :: d :: rest =>
      if c = '\\' ∧ d ≠ '\n' then d :: unescape rest else c :: unescape (d :: rest)

/-- The value that a bare or quoted form writes. -/
def paramValue (element raw : Text) : Except Error Text :=
  if raw.head? = some '"' then
    if raw.length < 2 ∨ raw.getLast? ≠ some '"' then
      .error (.badQuoted element)
    else
      .ok (unescape (raw.drop 1).dropLast)
  else
    .ok raw

/-- Read one element. -/
def parseParam (element : Text) : Except Error (Text × Text) :=
  match Text.cut '=' element with
  | (_, none) => .error (.noValue element)
  | (before, some after) =>
      let name := Text.trim before
      if name.isEmpty then .error (.noName element)
      else if !isToken name then .error (.badName name)
      else (paramValue element (Text.trim after)).map (name, ·)

/-- Read the value of an authentication header; a missing value counts as an empty one. -/
def parse (value : Option Text) : Except Error Challenge :=
  let text := Text.trim (value.getD [])
  if text.isEmpty then
    .error .empty
  else do
    let found ← elements (Text.afterFirstWord text)
    let params ← found.mapM parseParam
    return { scheme := Text.firstWord text, params }

end Challenge
end HttpAuth
