import HttpAuth.Challenge.Parser

/-!
# Log records

What is logged while requests are made.  A record holds what it is about, and its wording is a
function of that.
-/

namespace HttpAuth

/-- The severity of a log record. -/
inductive LogLevel where
  /-- Of interest when a problem is traced. -/
  | debug
  /-- Of interest in normal operation. -/
  | info
  /-- A sign of trouble. -/
  | warning
  deriving Repr, DecidableEq

/-- A log record. -/
inductive LogRecord where
  /-- A Bearer challenge cannot be read. -/
  | malformedChallenge (error : Challenge.Error)
  /-- A Bearer challenge names no token service. -/
  | unusableChallenge (error : Challenge.TargetError)
  /-- A token is requested. -/
  | requestingToken (target : RealmTarget)
  /-- A token service answers with a status that is not successful. -/
  | realmStatus (host : Text) (status : Int)
  /-- A request is sent with so many headers of an authenticator. -/
  | sending (line : Option Text) (count : Nat)
  /-- An authenticator has no answer to a challenge. -/
  | noCredentials (line : Option Text)
  /-- A request is sent again. -/
  | retrying (line : Option Text)
  /-- An HTTP client sends a request. -/
  | httpRequest (method url : Text)
  /-- An HTTP client receives a response. -/
  | httpResponse (status : Int) (host : Text) (port : Int)
  deriving Repr, DecidableEq

namespace LogRecord

/-- The severity of a record. -/
def level : LogRecord → LogLevel
  | .realmStatus _ _ => .warning
  | .retrying _ => .info
  | _ => .debug

/-- A request line as it appears in a record. -/
def lineText (line : Option Text) : String :=
  (line.map String.ofList).getD "None"

/-- A truth value as it appears in a record. -/
def flagText (flag : Bool) : String :=
  if flag then "True" else "False"

/-- The wording of a record. -/
def message : LogRecord → String
  | .malformedChallenge error => "Ignoring malformed Bearer challenge: " ++ error.message
  | .unusableChallenge error => "Unusable Bearer challenge, using fallback: " ++ error.message
  | .requestingToken target =>
      "Requesting token: " ++ String.ofList (target.line "GET".toList)
        ++ " (host=" ++ String.ofList target.host ++ ", secure=" ++ flagText target.secure ++ ")"
  | .realmStatus host status =>
      "Token realm " ++ String.ofList host ++ " answered " ++ toString status
  | .sending line count =>
      "Sending " ++ lineText line ++ " (" ++ toString count ++ " pre-emptive auth headers)"
  | .noCredentials line => "No credentials for challenge on " ++ lineText line ++ ", returning 401"
  | .retrying line =>
      "Authentication required for " ++ lineText line ++ ", retrying with new credentials"
  | .httpRequest method url => String.ofList method ++ " " ++ String.ofList url
  | .httpResponse status host port =>
      "Response: " ++ toString status ++ " from " ++ String.ofList host ++ ":" ++ toString port

end LogRecord

end HttpAuth
