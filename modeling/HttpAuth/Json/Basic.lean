import HttpAuth.Binary64.Basic
import HttpAuth.Text.Basic

/-!
# JSON values

A string is a list of code points, because an escape may write a surrogate that has no partner.  An
integer keeps its value, whatever its size; any other number is rounded.  An object keeps its
members in the order of the text, and the last member of a name is the one that counts.
-/

namespace HttpAuth

/-- A sequence of code points, surrogates included. -/
abbrev CodePoints := List Nat

namespace CodePoints

/-- The code points of a text. -/
def ofText (text : Text) : CodePoints :=
  text.map Char.toNat

/-- The text of the code points.  A text holds no surrogates, so that U+FFFD stands in their place:
what becomes of strings with a surrogate that has no partner is not told. -/
def toText (codes : CodePoints) : Text :=
  codes.map fun code => if code.isValidChar then Char.ofNat code else Char.ofNat 0xFFFD

end CodePoints

/-- A JSON value. -/
inductive Json where
  /-- The literal `null`. -/
  | null
  /-- A truth value. -/
  | bool (value : Bool)
  /-- A number without fraction and exponent. -/
  | integer (value : Int)
  /-- Any other number. -/
  | decimal (value : Binary64)
  /-- A string. -/
  | string (codes : CodePoints)
  /-- An array. -/
  | array (items : List Json)
  /-- An object. -/
  | object (members : List (CodePoints × Json))
  deriving Repr

namespace Json

/-- The value of the last member with a name. -/
def last? (name : CodePoints) (members : List (CodePoints × Json)) : Option Json :=
  members.reverse.lookup name

/-- The member of an object with a name. -/
def member? (name : Text) : Json → Option Json
  | .object members => last? (CodePoints.ofText name) members
  | _ => none

/-- The text of a string. -/
def text? : Json → Option Text
  | .string codes => some (CodePoints.toText codes)
  | _ => none

end Json
end HttpAuth
