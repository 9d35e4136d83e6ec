import HttpAuth.Authenticator

/-!
# Services

A service takes requests and gives responses.  On top of an endpoint, one kind puts a path in front
of every target, and another adds credentials: it sends a request with the credentials at hand, and
once more when the answer is a challenge that its authenticator can meet.
-/

namespace HttpAuth

/-- Something that requests are made to. -/
inductive Service where
  /-- An endpoint itself. -/
  | direct (endpoint : Endpoint)
  /-- A service under a path. -/
  | under (inner : Service) (path : Text)
  /-- A service with credentials. -/
  | authenticated (inner : Service) (authenticator : Authenticator)
  deriving Repr, DecidableEq

namespace Service

/-- The status of a response that asks for credentials. -/
def unauthorized : Int := 401

/-- The line for a path in front of the path of another line. -/
def lineUnder (path : Text) (line : RequestLine) : RequestLine :=
  let tail := match line.query? with
    | none => []
    | some query => '?' :: query
  line.withTarget (Text.dropTrailing '/' path ++ line.path ++ tail)

/-- The answer of an authenticator to a response, which is released when there is none. -/
def challengeAnswer (authenticator : Authenticator) (response : Response) : Run Headers :=
  tryCatch (authenticator.answer response.headers) fun failure => do
    Run.release response
    throw failure

/-- Send a request with credentials. -/
def authenticate (send : Headers → Body → Run Response) (authenticator : Authenticator)
    (line : Option Text) (headers : Headers) (body : Body) : Run Response := do
  let data ← Run.readBody .caller body
  let first ← authenticator.answer .empty
  Run.log (.sending line first.size)
  let response ← send (headers ++ first) (.bytes data)
  if response.status ≠ unauthorized then
    return response
  let second ← challengeAnswer authenticator response
  if second.isEmpty then
    Run.log (.noCredentials line)
    return response
  Run.log (.retrying line)
  Run.release response
  send (headers ++ second) (.bytes data)

/-- Send a request and receive its response. -/
def respond : Service → Option Text → Headers → Body → Run Response
  | .direct endpoint, line, headers, body => endpoint.respond line headers body
  | .under inner path, line, headers, body => do
      let parsed ← Run.ofExcept .requestLine (RequestLine.parse line)
      inner.respond (some (lineUnder path parsed).text) headers body
  | .authenticated inner authenticator, line, headers, body =>
      authenticate (fun headers body => inner.respond line headers body) authenticator line headers
        body

/-- A service under several paths, the first one innermost. -/
def underAll (service : Service) (paths : List Text) : Service :=
  paths.foldl .under service

end Service
end HttpAuth
