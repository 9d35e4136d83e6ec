import HttpAuth.Client
import HttpAuth.Service
import HttpAuth.Settings.Environment

/-!
# Fetching a manifest from a registry

A program over the library: it asks the public registry for the manifest of an image and prints the
status and the start of the body.  Credentials in the environment go to the token service alone.
The reply of the token service is read with as many levels of the call stack left as an argument
says.
-/

namespace HttpAuth
namespace Registry

/-- Host of the registry. -/
def host : Text := "registry-1.docker.io".toList

/-- The path that all requests to the registry start with. -/
def root : Text := "/v2".toList

/-- The media types that are asked for. -/
def accept : Headers :=
  .single "Accept".toList
    "application/vnd.docker.distribution.manifest.list.v2+json".toList

@[simp]
theorem items_accept : accept.items =
    [("Accept".toList, "application/vnd.docker.distribution.manifest.list.v2+json".toList)] := rfl

/-- The image that is fetched unless another is named. -/
def defaultImage : Text := "library/ubuntu".toList

/-- The tag that is fetched unless another is named. -/
def defaultTag : Text := "latest".toList

/-- Most characters of a body that are printed. -/
def bodyLimit : Nat := 2000

/-- The request line for a manifest. -/
def manifestLine (image tag : Text) : Text :=
  "GET /".toList ++ image ++ "/manifests/".toList ++ tag ++ " HTTP/1.1".toList

/-- The credentials for the token service: both variables have to be set and not empty.  Values that
are not UTF-8 are no texts; with them the program fails before it makes a client. -/
def credentials (environment : Environment) : Authenticator :=
  let username := (environment.value? "REGISTRY_USERNAME".toList).getD []
  let password := (environment.value? "REGISTRY_PASSWORD".toList).getD []
  if username.isEmpty || password.isEmpty then .anonymous else .basic username password

/-- The registry with its authentication. -/
def service (levels : Nat) (credentials : Authenticator) : Service :=
  .authenticated (.under (.direct (.ofHost true host none)) root)
    (.bearer .http (.json "token".toList levels) .anonymous credentials)

/-- What the program prints. -/
def report (status : Int) (body : Octets) : Text :=
  "Status: ".toList ++ (toString status).toList ++
    '\n' :: (Utf8.decodeLenient body).take bodyLimit ++ ['\n']

/-- The end of a program: an exit code and what it printed. -/
structure Exit where
  /-- Zero when the manifest was found. -/
  code : Nat
  /-- Everything printed. -/
  output : Text
  deriving Repr, DecidableEq

/-- Fetch a manifest with a client. -/
def fetch (levels : Nat) (credentials : Authenticator) (image tag : Text) : Run Exit := do
  let response ←
    (service levels credentials).respond (some (manifestLine image tag)) accept .none
  let body ← Run.ofOutcome response.body.read
  return {
    code := if response.status = 200 then 0 else 1
    output := report response.status body }

/-- Fetch a manifest with a client made from settings. -/
def fetchWith (levels : Nat) (settings : Settings) (credentials : Authenticator)
    (image tag : Text) : Run Exit := do
  let client ← Client.make settings
  client.during (fetch levels credentials image tag)

/-- The image and the tag that the arguments name. -/
def request (arguments : List Text) : Text × Text :=
  (arguments[0]?.getD defaultImage, arguments[1]?.getD defaultTag)

/-- The whole program, once the settings can be read. -/
def program (levels : Nat) (environment : Environment) (arguments : List Text) :
    Except Environment.Error (Run Exit) := do
  let settings ← environment.settings Environment.defaultStart
  let (image, tag) := request arguments
  return fetchWith levels settings (credentials environment) image tag

end Registry
end HttpAuth
