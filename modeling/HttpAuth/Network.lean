import HttpAuth.Body

/-!
# The network

The remote parties with the replies they have left, the authenticators whose answers are set, and
everything observed so far.
-/

namespace HttpAuth

/-- A response with a live body. -/
structure Response where
  /-- The status code. -/
  status : Int
  /-- The header fields. -/
  headers : Headers := .empty
  /-- The body. -/
  body : Content
  deriving Repr, DecidableEq

/-- What a remote party does when it is its turn. -/
inductive Reply where
  /-- It answers. -/
  | response (status : Int) (headers : Headers) (body : Body) (hook : Option Hook)
  /-- It raises a failure. -/
  | failure (failure : Failure)
  deriving Repr, DecidableEq

/-- What an authenticator does when its answers are set. -/
inductive Verdict where
  /-- It answers with headers. -/
  | headers (headers : Headers)
  /-- It raises a failure. -/
  | failure (failure : Failure)
  deriving Repr, DecidableEq

/-- The replies of a remote party. -/
structure Script where
  /-- Number of replies given. -/
  served : Nat := 0
  /-- Replies not yet given. -/
  pending : List Reply := []
  deriving Repr, DecidableEq

/-- The remote parties and what was observed of the exchange with them. -/
structure Network where
  /-- Everything observed, in order. -/
  trace : List Event := []
  /-- Replies of the server that requests are made to. -/
  origin : Script := {}
  /-- Replies of the token service. -/
  realm : Script := {}
  /-- Replies that an HTTP client receives. -/
  client : Script := {}
  /-- Answers that are set, by the number of the authenticator. -/
  verdicts : List (List Verdict) := []
  deriving Repr, DecidableEq

namespace Network

/-- The replies of a party. -/
def script (network : Network) : Peer → Script
  | .origin => network.origin
  | .realm => network.realm
  | .client => network.client

/-- Change the replies of a party. -/
def withScript (network : Network) (peer : Peer) (script : Script) : Network :=
  match peer with
  | .origin => { network with origin := script }
  | .realm => { network with realm := script }
  | .client => { network with client := script }

/-- Observe events. -/
def observe (network : Network) (events : List Event) : Network :=
  { network with trace := network.trace ++ events }

end Network

end HttpAuth
