import HttpAuth.Challenge.Parser
import HttpAuth.Headers

/-!
# Finding a Bearer challenge

Among the authentication headers of a response, the first Bearer challenge that can be read
counts.  Those before it that cannot be read are reported with their errors.
-/

namespace HttpAuth
namespace Challenge

/-- The name of the header that carries challenges. -/
def headerName : Text :=
  "WWW-Authenticate".toList

/-- A trimmed header value asks for Bearer authentication. -/
def isBearer (text : Text) : Bool :=
  Text.lower (Text.firstWord text) == "bearer".toList

/-- The trimmed values of the authentication headers that ask for Bearer authentication. -/
def bearerValues (headers : Headers) : List Text :=
  ((headers.getAll headerName).map Text.trim).filter isBearer

/-- The first challenge that can be read, and the errors of the values before it. -/
def firstReadable : List Text → List Error × Option Challenge
  | [] => ([], none)
  | value :: others =>
      match parse (some value) with
      | .ok challenge => ([], some challenge)
      | .error error => (error :: (firstReadable others).1, (firstReadable others).2)

/-- The Bearer challenge of a response, and the errors of the values before it. -/
def findBearer (headers : Headers) : List Error × Option Challenge :=
  firstReadable (bearerValues headers)

end Challenge
end HttpAuth
