import HttpAuth.Failure
import HttpAuth.Headers
import HttpAuth.LogRecord
import HttpAuth.Settings.Basic

/-!
# Events

What can be observed while requests are made: the chunks that are taken from bodies, the bodies
that are released, the calls between the parts, and the log.
-/

namespace HttpAuth

/-- Something that can be observed. -/
inductive Event where
  /-- A chunk of a body is taken, counted from zero. -/
  | chunk (owner : Owner) (index : Nat)
  /-- A body is released; layer zero is the outermost of nested contents. -/
  | close (owner : Owner) (layer : Nat)
  /-- An authenticator is asked for headers. -/
  | authenticate (name : Text) (headers : Headers)
  /-- A remote party is sent a request. -/
  | request (peer : Peer) (line : Option Text) (headers : Headers) (body : Octets)
  /-- A way to a token service is asked for. -/
  | dial (secure : Bool) (host : Text) (port : Option Int)
  /-- An HTTP client is made. -/
  | clientOpen (options : ClientOptions)
  /-- An HTTP client sends a request; an empty body is no content. -/
  | send (method url : Text) (headers : Headers) (content : Option Octets)
  /-- An HTTP client is closed. -/
  | clientClose
  /-- A record is logged. -/
  | log (record : LogRecord)
  deriving Repr, DecidableEq

end HttpAuth
