import HttpAuth.Text.Blank
import HttpAuth.Text.Case
import HttpAuth.Text.Quoted

/-!
# Request lines

A method, a target and a version with one space between them.  The target is a path with an
optional query and is kept as it is written.
-/

namespace HttpAuth

/-- A request line. -/
structure RequestLine where
  /-- The method, in capitals when it was read or built. -/
  method : Text
  /-- The path and the query after it. -/
  target : Text
  /-- The protocol version. -/
  version : Text := "HTTP/1.1".toList
  deriving Repr, DecidableEq

namespace RequestLine

/-- Why a text is no request line. -/
inductive Error where
  /-- The text is not three fields with single spaces between them. -/
  | malformed (line : Option Text)
  /-- The third field names no version of the protocol. -/
  | version (line : Option Text)
  deriving Repr, DecidableEq

/-- The wording of an error. -/
def Error.message : Error → String
  | .malformed line => "Invalid request line: " ++ String.ofList (Text.quotedOption line)
  | .version line =>
      "Invalid HTTP version in request line: " ++ String.ofList (Text.quotedOption line)

/-- Read a request line; a missing line counts as an empty one. -/
def parse (line : Option Text) : Except Error RequestLine :=
  match Text.pieces ' ' (Text.trim (line.getD [])) with
  | [method, target, version] =>
      if method.isEmpty || target.isEmpty || version.isEmpty then
        .error (.malformed line)
      else if "HTTP/".toList.isPrefixOf (Text.upper version) then
        .ok ⟨Text.upper method, target, version⟩
      else
        .error (.version line)
  | _ => .error (.malformed line)

/-- A line for a path and a query; an empty path becomes a slash and an empty query is left out. -/
def build (method path : Text) (query : Option Text) : RequestLine :=
  let path := if path.isEmpty then ['/'] else path
  let tail := if (query.getD []).isEmpty then [] else '?' :: query.getD []
  { method := Text.upper method, target := path ++ tail }

/-- The target up to its first question mark. -/
def path (line : RequestLine) : Text :=
  (Text.cut '?' line.target).1

/-- The target after its first question mark, if there is one. -/
def query? (line : RequestLine) : Option Text :=
  (Text.cut '?' line.target).2

/-- The line with another target. -/
def withTarget (line : RequestLine) (target : Text) : RequestLine :=
  { line with target }

/-- The written form of a line. -/
def text (line : RequestLine) : Text :=
  line.method ++ ' ' :: line.target ++ ' ' :: line.version

end RequestLine
end HttpAuth
