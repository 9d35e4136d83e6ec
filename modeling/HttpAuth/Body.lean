import HttpAuth.Content.Basic

/-!
# Bodies

The description of a body before anything is read from it.  Opening a description gives a content,
whose events carry the label of its owner.
-/

namespace HttpAuth

/-- A body of which nothing has been read. -/
inductive Body where
  /-- Bytes in memory. -/
  | bytes (data : Octets)
  /-- A list of chunks in memory. -/
  | chunks (items : List Octets)
  /-- A stream, and the failure that ends it if there is one. -/
  | stream (items : List Octets) (failure : Option Failure)
  /-- A content over another body. -/
  | content (body : Body) (hook : Option Hook)
  deriving Repr, DecidableEq

namespace Body

/-- No body. -/
def none : Body := .bytes []

/-- A stream that fails instead of handing out a chunk of this index, or at its end. -/
def failingStream (items : List Octets) (index : Nat) (failure : Failure) : Body :=
  .stream (items.take index) (some failure)

/-- A content over a body, with contents around it. -/
def contentAt (owner : Owner) : Nat → Body → Option Hook → Content
  | layer, .bytes data, hook => { supply := .bytes data, gate := { owner, layer, hook } }
  | layer, .chunks items, hook => { supply := .chunks items, gate := { owner, layer, hook } }
  | layer, .stream items failure, hook =>
      { supply := .stream { owner, announced := true, pending := items, failure }
        gate := { owner, layer, hook } }
  | layer, .content body inside, hook =>
      (contentAt owner (layer + 1) body inside).enclosed { owner, layer, hook }

/-- A content over a body. -/
def contentOver (owner : Owner) (body : Body) (hook : Option Hook) : Content :=
  contentAt owner 0 body hook

/-- The content that a reader of a body reads. -/
def toContent (owner : Owner) : Body → Content
  | .content body hook => contentOver owner body hook
  | body => contentOver owner body .none

/-- The content that an HTTP client makes of the body of a response: a stream that is released
quietly. -/
def received (owner : Owner) (body : Body) : Content :=
  let gate : Gate := { owner, layer := 0, hook := some .quiet }
  match body with
  | .content body hook =>
      let enclosed := (contentAt owner 1 body hook).enclosed gate
      match enclosed.supply with
      | .chunks items =>
          { enclosed with
            supply := .stream { owner, announced := false, pending := items, failure := .none } }
      | _ => enclosed
  | .bytes data =>
      { supply := .stream
          { owner, announced := false, pending := Content.chunksOfBytes data, failure := .none }
        gate }
  | .chunks items =>
      { supply := .stream { owner, announced := false, pending := items, failure := .none }, gate }
  | .stream items failure =>
      { supply := .stream { owner, announced := true, pending := items, failure }, gate }

end Body
end HttpAuth
