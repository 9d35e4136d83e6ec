import HttpAuth.Run

/-!
# Endpoints

Where a request ends up: at a party whose replies are known, or at a host that is reached over
HTTP.  The URL of an HTTP request is fixed by the host and port of the endpoint and ends in the
target of the request line.
-/

namespace HttpAuth

/-- Where requests are sent. -/
inductive Endpoint where
  /-- A party with known replies. -/
  | party (peer : Peer)
  /-- A host that is reached over HTTP. -/
  | remote (secure : Bool) (host : Text) (port : Int)
  deriving Repr, DecidableEq

namespace Endpoint

/-- The port of a scheme. -/
def defaultPort (secure : Bool) : Int :=
  if secure then 443 else 80

/-- The endpoint for a host; a missing port, or port zero, means the one of the scheme. -/
def ofHost (secure : Bool) (host : Text) (port : Option Int) : Endpoint :=
  .remote secure host (if port.getD 0 = 0 then defaultPort secure else port.getD 0)

/-- The host in a URL; brackets enclose an address with colons. -/
def urlHost (host : Text) : Text :=
  if host.contains ':' then '[' :: host ++ [']'] else host

/-- The target in a URL, which starts with a slash. -/
def urlTarget (target : Text) : Text :=
  if target.head? = some '/' then target else '/' :: target

/-- The scheme, host and port of a URL. -/
def base (secure : Bool) (host : Text) (port : Int) : Text :=
  (if secure then "https" else "http").toList ++ "://".toList ++ urlHost host ++
    ':' :: (toString port).toList

/-- The URL of a target at a host. -/
def url (secure : Bool) (host : Text) (port : Int) (target : Text) : Text :=
  base secure host port ++ urlTarget target

/-- Send a request and receive its response.  A party reads the body before anything else; over HTTP
the request line is read first. -/
def respond (line : Option Text) (headers : Headers) (body : Body) : Endpoint → Run Response
  | .party peer => do
      let data ← Run.readBody .caller body
      Run.emit (.request peer line headers data)
      Run.receive peer Body.contentOver
  | .remote secure host port => do
      let parsed ← Run.ofExcept .requestLine (RequestLine.parse line)
      let data ← Run.readBody .caller body
      let address := url secure host port parsed.target
      Run.log (.httpRequest parsed.method address)
      Run.emit (.send parsed.method address headers (if data.isEmpty then none else some data))
      let response ← Run.receive .client fun owner body _ => body.received owner
      Run.log (.httpResponse response.status host port)
      return response

end Endpoint

/-- How the token service named by a challenge is reached. -/
inductive Dialer where
  /-- Every way leads to the token service with known replies. -/
  | recorded
  /-- Over HTTP. -/
  | http
  deriving Repr, DecidableEq

namespace Dialer

/-- The endpoint of a host. -/
def dial (secure : Bool) (host : Text) (port : Option Int) : Dialer → Run Endpoint
  | .recorded => do
      Run.emit (.dial secure host port)
      return .party .realm
  | .http => return .ofHost secure host port

end Dialer
end HttpAuth
