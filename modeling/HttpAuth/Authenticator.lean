import HttpAuth.Base64
import HttpAuth.Challenge.Bearer
import HttpAuth.Endpoint

/-!
# Authenticators

An authenticator answers the headers of a response with headers for the next request; before the
first request it is asked with no headers.  No headers in the answer mean that it has no
credentials to offer.  A Bearer authenticator fetches a token from the service that a challenge
names, and hands over to its fallback when there is no usable challenge.
-/

namespace HttpAuth

/-- A source of credentials. -/
inductive Authenticator where
  /-- It has no credentials. -/
  | anonymous
  /-- It always gives the same headers. -/
  | fixed (headers : Headers)
  /-- It gives a user name and a password. -/
  | basic (username password : Text)
  /-- Its answers are set; the number selects them. -/
  | scripted (number : Nat) (name : Text)
  /-- It fetches a token, with credentials for the token service. -/
  | bearer (dialer : Dialer) (format : TokenFormat) (fallback realmAuth : Authenticator)
  deriving Repr, DecidableEq

namespace Authenticator

/-- The name of the header that carries credentials. -/
def headerName : Text :=
  "Authorization".toList

/-- The credentials of a user. -/
def basicHeaders (username password : Text) : Headers :=
  .single headerName
    ("Basic ".toList ++ Base64.encode (Utf8.encode (username ++ ':' :: password)))

/-- The credentials that a token makes. -/
def bearerHeaders (token : Text) : Headers :=
  .single headerName ("Bearer ".toList ++ token)

@[simp]
theorem items_basicHeaders (username password : Text) : (basicHeaders username password).items =
    [("Authorization".toList,
      "Basic ".toList ++ Base64.encode (Utf8.encode (username ++ ':' :: password)))] := rfl

@[simp]
theorem items_bearerHeaders (token : Text) :
    (bearerHeaders token).items = [("Authorization".toList, "Bearer ".toList ++ token)] := rfl

/-- A status that stands for success. -/
def isSuccess (status : Int) : Bool :=
  200 ≤ status && status < 300

/-- Fetch a token for a target. -/
def fetch (dialer : Dialer) (format : TokenFormat) (realmAuth : Run Headers)
    (target : RealmTarget) : Run Headers := do
  let endpoint ← dialer.dial target.secure target.host (target.port.map Int.ofNat)
  Run.log (.requestingToken target)
  let credentials ← realmAuth
  let response ← endpoint.respond (some (target.line "GET".toList)) credentials .none
  if !isSuccess response.status then
    Run.log (.realmStatus target.host response.status)
  let content ← Run.ofOutcome response.body.read
  let token ← Run.ofExcept .token (format.token content)
  return bearerHeaders token

/-- Answer the headers of a response. -/
def answer : Authenticator → Headers → Run Headers
  | .anonymous, _ => return .empty
  | .fixed headers, _ => return headers
  | .basic username password, _ => return basicHeaders username password
  | .scripted number name, headers => do
      Run.emit (.authenticate name headers)
      Run.verdict number name
  | .bearer dialer format fallback realmAuth, headers => do
      let (ignored, found) := Challenge.findBearer headers
      ignored.forM fun error => Run.log (.malformedChallenge error)
      match found with
      | none => fallback.answer headers
      | some challenge =>
          match challenge.target with
          | .ok target => fetch dialer format (realmAuth.answer .empty) target
          | .error (.unsplittable error) => throw (.realmUri error)
          | .error error => do
              Run.log (.unusableChallenge error)
              fallback.answer headers

/-- A description without secrets, of the authenticators that have one. -/
def describe? : Authenticator → Option Text
  | .anonymous => some "AnonymousAuthenticator()".toList
  | .basic username _ =>
      some ("BasicAuthenticator(username=".toList ++ Text.quoted username ++ [')'])
  | _ => none

end Authenticator
end HttpAuth
