import HttpAuth.RequestLine
import HttpAuth.Percent
import HttpAuth.Uri

/-!
# Authentication challenges

A challenge names a scheme and has parameters.  The realm of a Bearer challenge is the URI of a
token service; the other parameters are forwarded to it in the query.
-/

namespace HttpAuth

/-- A challenge. -/
structure Challenge where
  /-- The authentication scheme. -/
  scheme : Text
  /-- Names and values of the parameters, in order. -/
  params : List (Text × Text) := []
  deriving Repr, DecidableEq

/-- Where a token is requested. -/
structure RealmTarget where
  /-- The service is reached over TLS. -/
  secure : Bool
  /-- Host of the service. -/
  host : Text
  /-- Port of the service, when the realm names one. -/
  port : Option Nat
  /-- Path of the request. -/
  path : Text
  /-- Query of the request. -/
  query : Text
  deriving Repr, DecidableEq

namespace RealmTarget

/-- The request line for a token. -/
def line (target : RealmTarget) (method : Text) : Text :=
  (RequestLine.build method target.path (some target.query)).text

end RealmTarget

namespace Challenge

/-- The characters that a forwarded name or value keeps besides the unreserved ones. -/
def querySafe : List Char :=
  "/:@!$'()*,;-._~".toList

/-- The name of the parameter that holds the token service. -/
def realmName : Text :=
  "realm".toList

/-- The value of the first parameter with a name, in any letter case. -/
def param? (challenge : Challenge) (name : Text) : Option Text :=
  (challenge.params.find? fun param => Text.lower param.1 == Text.lower name).map Prod.snd

/-- The realm. -/
def realm? (challenge : Challenge) : Option Text :=
  challenge.param? realmName

/-- A forwarded parameter in encoded form. -/
def queryItem (param : Text × Text) : Text :=
  Percent.encode querySafe param.1 ++ '=' ::
    Percent.encode querySafe (Percent.decode param.2)

/-- The parameters other than the realm, as a query. -/
def query (challenge : Challenge) : Text :=
  Text.joined '&'
    ((challenge.params.filter fun param => Text.lower param.1 != realmName).map queryItem)

/-- Why a challenge names no token service. -/
inductive TargetError where
  /-- It has no realm. -/
  | noRealm (scheme : Text)
  /-- Its realm is not an absolute URI of the web. -/
  | notAbsolute (realm : Text)
  /-- Its realm has no valid port. -/
  | port (realm : Text)
  /-- Its realm cannot be split as a URI. -/
  | unsplittable (error : Uri.Error)
  deriving Repr, DecidableEq

/-- The wording of an error. -/
def TargetError.message : TargetError → String
  | .noRealm scheme => String.ofList scheme ++ " challenge has no realm"
  | .notAbsolute realm =>
      "Realm is not an absolute http(s) URI: " ++ String.ofList (Text.quoted realm)
  | .port realm => "Realm has invalid port: " ++ String.ofList (Text.quoted realm)
  | .unsplittable error => error.message

/-- Put the query of a realm before the forwarded parameters. -/
def mergedQuery (own forwarded : Text) : Text :=
  Text.joined '&' ([own, forwarded].filter (!·.isEmpty))

/-- The target that the parts of a realm name. -/
def targetOfUri (challenge : Challenge) (realm : Text) (uri : Uri) :
    Except TargetError RealmTarget :=
  let secure := uri.scheme == "https".toList
  if (!secure && uri.scheme != "http".toList) || uri.host.isEmpty then
    .error (.notAbsolute realm)
  else
    let reached (port : Option Nat) : RealmTarget :=
      { secure
        host := uri.host
        port
        path := if uri.path.isEmpty then ['/'] else uri.path
        query := mergedQuery uri.query challenge.query }
    match uri.port with
    | .invalid => .error (.port realm)
    | .absent => .ok (reached none)
    | .number value => .ok (reached (some value))

/-- The token request that the realm asks for. -/
def target (challenge : Challenge) : Except TargetError RealmTarget :=
  match challenge.realm?.getD [] with
  | [] => .error (.noRealm challenge.scheme)
  | realm =>
      match Uri.split realm with
      | .error error => .error (.unsplittable error)
      | .ok uri => challenge.targetOfUri realm uri

end Challenge
end HttpAuth
