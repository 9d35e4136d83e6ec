import HttpAuth.Event

/-!
# Contents

A content is a live body.  Bytes can be read again and again; a list of chunks starts anew with
every iteration; a stream hands each chunk out once.  Unless it is bytes, a content is released
when an iteration ends, and its release runs at most once.  A content may enclose another, whose
release then comes first.
-/

namespace HttpAuth

/-- What the release of a content does besides being recorded. -/
inductive Hook where
  /-- It succeeds. -/
  | quiet
  /-- It fails. -/
  | failing
  deriving Repr, DecidableEq

/-- The release of a content. -/
structure Gate where
  /-- Whose content it is. -/
  owner : Owner
  /-- How many contents enclose it. -/
  layer : Nat
  /-- What is run, if anything. -/
  hook : Option Hook
  /-- The content has been released. -/
  closed : Bool := false
  deriving Repr, DecidableEq

/-- A sequence of chunks that are handed out once. -/
structure Stream where
  /-- Whose stream it is. -/
  owner : Owner
  /-- Every chunk handed out is recorded. -/
  announced : Bool
  /-- Number of chunks handed out. -/
  taken : Nat := 0
  /-- Chunks not yet handed out. -/
  pending : List Octets
  /-- How the stream ends after its chunks, when it does not just end. -/
  failure : Option Failure
  deriving Repr, DecidableEq

/-- Where the chunks of a content come from. -/
inductive Supply where
  /-- From bytes in memory. -/
  | bytes (data : Octets)
  /-- From a list in memory. -/
  | chunks (items : List Octets)
  /-- From a stream. -/
  | stream (stream : Stream)
  deriving Repr, DecidableEq

/-- A live body. -/
structure Content where
  /-- Where the chunks come from. -/
  supply : Supply
  /-- Releases of the enclosed contents, the innermost first. -/
  inner : List Gate := []
  /-- Release of the content itself. -/
  gate : Gate
  deriving Repr, DecidableEq

/-- The result of an operation on a content. -/
structure Outcome (α : Type) where
  /-- The content afterwards. -/
  content : Content
  /-- What was observed. -/
  events : List Event
  /-- The value or the failure. -/
  result : Except Failure α

namespace Gate

/-- The failure of the release, when it is set to fail. -/
def failure? (gate : Gate) : Option Failure :=
  if gate.hook = some .failing then some (.closing gate.owner) else none

/-- Release once: the gate afterwards, the events and the failure. -/
def close (gate : Gate) : Gate × List Event × Option Failure :=
  if gate.closed then
    (gate, [], none)
  else
    ({ gate with closed := true },
      if gate.hook.isSome then [.close gate.owner gate.layer] else [],
      gate.failure?)

/-- Release in order, after an earlier failure if there was one; a later failure replaces it. -/
def closeAll : List Gate → Option Failure → List Gate × List Event × Option Failure
  | [], reason => ([], [], reason)
  | gate :: others, reason =>
      let (gate, events, failure) := gate.close
      let (others, later, reason) := closeAll others (failure <|> reason)
      (gate :: others, events ++ later, reason)

end Gate

namespace Stream

/-- The records of handing out so many chunks. -/
def announcements (stream : Stream) (count : Nat) : List Event :=
  if stream.announced then
    (List.range' stream.taken count).map (.chunk stream.owner)
  else
    []

end Stream

namespace Content

/-- The content can be read again. -/
def replayable (content : Content) : Bool :=
  match content.supply with
  | .bytes _ => true
  | _ => false

/-- The chunks that bytes make. -/
def chunksOfBytes (data : Octets) : List Octets :=
  if data.isEmpty then [] else [data]

/-- Release the content itself. -/
def close (content : Content) : Outcome Unit :=
  let (gate, events, failure) := content.gate.close
  { content := { content with gate }
    events
    result := match failure with
      | none => .ok ()
      | some failure => .error failure }

/-- Release everything at the end of an iteration, unless the content can be read again.  The result
is the given one unless the iteration has failed or a release fails. -/
def finish {α : Type} (content : Content) (reason : Option Failure) (result : α) : Outcome α :=
  let (inner, gate, events, reason) :=
    if content.replayable then
      (content.inner, content.gate, [], reason)
    else
      let (inner, early, reason) := Gate.closeAll content.inner reason
      let (gate, late, failure) := content.gate.close
      (inner, gate, early ++ late, failure <|> reason)
  { content := { content with inner, gate }
    events
    result := match reason with
      | none => .ok result
      | some failure => .error failure }

/-- Iterate from the start to the end. -/
def drain (content : Content) : Outcome (List Octets) :=
  match content.supply with
  | .bytes data => content.finish none (chunksOfBytes data)
  | .chunks items => content.finish none items
  | .stream stream =>
      let count := stream.pending.length
      let spent := { stream with taken := stream.taken + count, pending := [], failure := none }
      let ended := { content with supply := .stream spent }.finish stream.failure stream.pending
      { ended with events := stream.announcements count ++ ended.events }

/-- Read everything that is left. -/
def read (content : Content) : Outcome Octets :=
  match content.supply with
  | .bytes data => { content, events := [], result := .ok data }
  | _ =>
      { content := content.drain.content
        events := content.drain.events
        result := content.drain.result.map List.flatten }

/-- Enclose a content in another one. -/
def enclosed (content : Content) (gate : Gate) : Content :=
  match content.supply with
  | .bytes data => { supply := .chunks (chunksOfBytes data), gate }
  | supply => { supply, inner := content.inner ++ [content.gate], gate }

end Content
end HttpAuth
