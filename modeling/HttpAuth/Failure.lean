import HttpAuth.Challenge.Basic
import HttpAuth.TokenFormat

/-!
# Failures

Why an operation ends without a result.  A failure is kept as its cause; a remote party, a body or
an authenticator may also be set to raise a failure of a given kind.
-/

namespace HttpAuth

/-- A remote party whose replies are known in advance. -/
inductive Peer where
  /-- The server that requests are made to. -/
  | origin
  /-- The token service. -/
  | realm
  /-- Whatever an HTTP client reaches. -/
  | client
  deriving Repr, DecidableEq

/-- Whose body it is: the caller's, or that of a numbered reply. -/
inductive Owner where
  /-- The body of a request. -/
  | caller
  /-- The body of a reply, counted from zero. -/
  | reply (peer : Peer) (index : Nat)
  deriving Repr, DecidableEq

/-- The kinds of failure that a remote party or a body may be set to raise. -/
inductive FailureKind where
  /-- A failure of a running program. -/
  | runtime
  /-- A wrong value. -/
  | value
  /-- The task is cancelled. -/
  | cancelled
  /-- No connection is made. -/
  | connect
  /-- No connection is made in time. -/
  | connectTimeout
  /-- A connection breaks while data is awaited. -/
  | read
  /-- A token cannot be read. -/
  | tokenFormat
  /-- A challenge cannot be read. -/
  | challengeParse
  deriving Repr, DecidableEq

/-- Who has no answer left. -/
inductive Source where
  /-- A remote party. -/
  | peer (peer : Peer)
  /-- An authenticator with a name. -/
  | authenticator (name : Text)
  deriving Repr, DecidableEq

/-- Why an operation ends without a result. -/
inductive Failure where
  /-- A request line cannot be read. -/
  | requestLine (error : RequestLine.Error)
  /-- A realm cannot be split as a URI. -/
  | realmUri (error : Uri.Error)
  /-- A body holds no token. -/
  | token (error : TokenFormat.Error)
  /-- The release of a body fails. -/
  | closing (owner : Owner)
  /-- There is no answer left. -/
  | exhausted (source : Source)
  /-- A party or a body raises a failure that it was set to raise. -/
  | raised (kind : FailureKind) (message : Text)
  deriving Repr, DecidableEq

/-- The name of a remote party. -/
def Peer.name : Peer → String
  | .origin => "origin"
  | .realm => "realm"
  | .client => "client"

/-- The label of a body. -/
def Owner.label : Owner → String
  | .caller => "body"
  | .reply peer index => peer.name ++ ":" ++ toString index

/-- The name of a source of answers. -/
def Source.name : Source → String
  | .peer party => party.name
  | .authenticator name => "authenticator " ++ String.ofList name

/-- The wording of a failure. -/
def Failure.message : Failure → String
  | .requestLine error => error.message
  | .realmUri error => error.message
  | .token error => error.message
  | .closing owner => "close failed: " ++ owner.label
  | .exhausted source => source.name
  | .raised _ message => String.ofList message

end HttpAuth
