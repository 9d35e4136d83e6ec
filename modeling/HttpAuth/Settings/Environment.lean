import HttpAuth.Settings.Validation
import HttpAuth.Text.Blank

/-!
# Settings from the environment

Seven variables with a common beginning of their names set the proxy, the flags and the timeouts.
Their values are trimmed, and a blank one counts as missing.  The port and the scheme of the proxy
matter only when its host is set.
-/

namespace HttpAuth

/-- Variables and their values; of several with one name the last counts. -/
abbrev Environment := List (Text × Text)

namespace Environment

/-- Why a value is no literal of its kind. -/
inductive LiteralError where
  /-- A port is no integer. -/
  | integer (text : Text)
  /-- A port has too many digits. -/
  | integerTooLong (digits : Nat)
  /-- A timeout is no number. -/
  | number (text : Text)
  deriving Repr, DecidableEq

/-- The wording of an error of a literal. -/
def LiteralError.message : LiteralError → String
  | .integer text => Literal.malformedIntegerMessage text
  | .integerTooLong digits => Literal.tooLongMessage digits
  | .number text => Literal.malformedBinary64Message text

/-- Why an environment gives no settings. -/
inductive Error where
  /-- A value is no literal of its kind. -/
  | literal (error : LiteralError)
  /-- A value is out of its range. -/
  | invalid (invalid : Invalid)
  deriving Repr, DecidableEq

/-- The beginning of the names unless another is given. -/
def defaultStart : Text :=
  "AUTHSLICE_".toList

/-- The port of a proxy unless another is given. -/
def defaultPort : Int := 8080

/-- The words that set a flag. -/
def trueWords : List Text :=
  ["1", "true", "yes", "on"].map String.toList

/-- The value of a variable. -/
def value? (environment : Environment) (name : Text) : Option Text :=
  environment.reverse.lookup name

/-- The trimmed value of a variable that is not blank. -/
def setting? (environment : Environment) (start : Text) (name : String) : Option Text :=
  ((environment.value? (start ++ name.toList)).map Text.trim).filter (!·.isEmpty)

/-- A trimmed value sets a flag. -/
def isTrue (text : Text) : Bool :=
  trueWords.contains (Text.lower text)

/-- The port that a trimmed value gives. -/
def readPort : Option Text → Except Error Int
  | none => .ok defaultPort
  | some text =>
      match Literal.integer text with
      | .ok port => .ok port
      | .error .malformed => .error (.literal (.integer text))
      | .error (.tooLong digits) => .error (.literal (.integerTooLong digits))

/-- The proxy, when its host is set. -/
def proxy (environment : Environment) (start : Text) : Except Error (Option ProxySettings) :=
  match environment.setting? start "PROXY_HOST" with
  | none => .ok none
  | some host => do
      let port ← readPort (environment.setting? start "PROXY_PORT")
      let secure := ((environment.setting? start "PROXY_SECURE").map isTrue).getD false
      match Validation.proxyOf [] (.ok host) (Validation.portNumber port) (.ok secure) with
      | .ok proxy => return some proxy
      | .error issues => .error (.invalid { group := .proxy, issues })

/-- A flag, which keeps its standard value when it is not set. -/
def flag (environment : Environment) (start : Text) (name : String) (standard : Bool) : Bool :=
  ((environment.setting? start name).map isTrue).getD standard

/-- The timeout that a trimmed value gives. -/
def readTimeout (standard : Binary64) : Option Text → Except Error Binary64
  | none => .ok standard
  | some text =>
      match Literal.binary64? text with
      | some value => .ok value
      | none => .error (.literal (.number text))

/-- A timeout, which keeps its standard value when it is not set. -/
def timeout (environment : Environment) (start : Text) (name : String) (standard : Binary64) :
    Except Error Binary64 :=
  readTimeout standard (environment.setting? start name)

/-- The settings of a client. -/
def settings (environment : Environment) (start : Text) : Except Error Settings := do
  let standard : Settings := {}
  let proxy ← environment.proxy start
  let connectTimeout ← environment.timeout start "CONNECT_TIMEOUT" standard.connectTimeout
  let idleTimeout ← environment.timeout start "IDLE_TIMEOUT" standard.idleTimeout
  match Validation.settingsOf (.ok proxy)
      (.ok (environment.flag start "TRUST_ALL" standard.trustAll))
      (.ok (environment.flag start "FOLLOW_REDIRECTS" standard.followRedirects))
      (Validation.seconds connectTimeout) (Validation.seconds idleTimeout) with
  | .ok settings => return settings
  | .error invalid => .error (.invalid invalid)

end Environment
end HttpAuth
