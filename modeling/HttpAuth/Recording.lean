import HttpAuth.Json.Parser
import HttpAuth.Network

/-!
# Recorded replies

The replies of a remote party, written as a JSON array.  A reply is an object with a status, and
with a list of headers and a text as body when it has them.
-/

namespace HttpAuth
namespace Recording

/-- A name and a value. -/
def header? : Json → Option (Text × Text)
  | .array [name, value] => do return (← name.text?, ← value.text?)
  | _ => none

/-- The headers of a reply; a reply without any has none. -/
def headers? : Option Json → Option Headers
  | none => some .empty
  | some (.array items) => do return ⟨← items.mapM header?⟩
  | some _ => none

/-- The body of a reply; a reply without any has an empty one. -/
def body? : Option Json → Option Body
  | none => some .none
  | some (.string codes) => some (.bytes (Utf8.encode (CodePoints.toText codes)))
  | some _ => none

/-- The status of a reply. -/
def status? : Option Json → Option Int
  | some (.integer status) => some status
  | _ => none

/-- One reply. -/
def reply? (value : Json) : Option Reply := do
  let status ← status? (value.member? "status".toList)
  let headers ← headers? (value.member? "headers".toList)
  let body ← body? (value.member? "body".toList)
  return .response status headers body none

/-- All replies of a text, which is nested no deeper than it is long. -/
def replies? (text : Text) : Option (List Reply) :=
  match Json.parse text.length text with
  | .ok (.array items) => items.mapM reply?
  | _ => none

end Recording
end HttpAuth
