import HttpAuth.Percent

/-!
# Form fields

The encoding of name and value pairs in one text: ampersands between the pairs, an equals sign
inside a pair, plus signs for spaces, and percent-encoding for the rest.
-/

namespace HttpAuth
namespace Form

/-- Decode one name or value. -/
def component (text : Text) : Text :=
  Percent.decode (text.map fun c => if c = '+' then ' ' else c)

/-- Decode one pair; without an equals sign the value is empty. -/
def field (piece : Text) : Text × Text :=
  let (name, value) := Text.cut '=' piece
  (component name, component (value.getD []))

/-- The decoded pairs of a text, in order; empty pieces are no pairs. -/
def fields (text : Text) : List (Text × Text) :=
  ((Text.pieces '&' text).filter (!·.isEmpty)).map field

/-- The value of the first pair with a name. -/
def value? (name : Text) (text : Text) : Option Text :=
  (fields text).lookup name

end Form
end HttpAuth
