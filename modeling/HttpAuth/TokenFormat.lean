import HttpAuth.Json.Parser
import HttpAuth.Text.Blank
import HttpAuth.Form
import HttpAuth.Utf8

/-!
# Token formats

How the body of a token service holds the token: as a member of a JSON object or as a form field.

A token is a text, and a text holds no surrogates.  Tokens with a surrogate that has no partner,
which an escape of a JSON string may write, are outside this development.
-/

namespace HttpAuth

/-- Where a token stands in a body. -/
inductive TokenFormat where
  /-- In a member of a JSON object, which is read with so many levels of the call stack left. -/
  | json (field : Text) (levels : Nat)
  /-- In a form field. -/
  | form (field : Text)
  deriving Repr, DecidableEq

namespace TokenFormat

/-- The field that holds a token unless another is named. -/
def defaultField : Text :=
  "access_token".toList

/-- Why a body holds no token. -/
inductive Error where
  /-- The body should be JSON and is not UTF-8. -/
  | jsonEncoding (error : Utf8.Error)
  /-- The body is not JSON. -/
  | jsonText (error : Json.Error)
  /-- The body goes beyond a limit of the JSON reader. -/
  | excess (excess : Json.Excess)
  /-- The body is not JSON, and the call stack has too few levels left to report it. -/
  | unreported
  /-- The body is JSON and no object. -/
  | notObject
  /-- The body should be a form and is not UTF-8. -/
  | formEncoding (error : Utf8.Error)
  /-- There is no text in the field. -/
  | missing (field : Text)
  deriving Repr, DecidableEq

/-- The error is one of a token format.  What goes beyond a limit of the reader is none. -/
def Error.isFormat : Error → Bool
  | .excess _ => false
  | .unreported => false
  | _ => true

/-- The wording of an error.  That of a fault which cannot be reported may go on with the call for
which there was no level left. -/
def Error.message : Error → String
  | .jsonEncoding error => "Token endpoint returned invalid JSON: " ++ error.message
  | .jsonText error => "Token endpoint returned invalid JSON: " ++ error.message
  | .excess limit => limit.message
  | .unreported => Json.fullStackMessage
  | .notObject => "Token endpoint returned non-JSON object"
  | .formEncoding error => "Token endpoint returned non UTF-8 body: " ++ error.message
  | .missing field => "Response missing " ++ String.ofList field

/-- The text in a member of a JSON value. -/
def memberToken (field : Text) : Json → Except Error Text
  | .object members =>
      match Json.last? (CodePoints.ofText field) members with
      | some (.string codes) => .ok (CodePoints.toText codes)
      | _ => .error (.missing field)
  | _ => .error .notObject

/-- The token in a body. -/
def token : TokenFormat → Octets → Except Error Text
  | .json field levels, body =>
      match Utf8.decode body with
      | .error error => .error (.jsonEncoding error)
      | .ok text =>
          match Json.parse levels text with
          | .error (.malformed error) => .error (.jsonText error)
          | .error (.excess excess) => .error (.excess excess)
          | .error .unreported => .error .unreported
          | .ok value => memberToken field value
  | .form field, body =>
      match Utf8.decode body with
      | .error error => .error (.formEncoding error)
      | .ok text =>
          match Form.value? field (Text.trim text) with
          | some value => .ok value
          | none => .error (.missing field)

end TokenFormat
end HttpAuth
