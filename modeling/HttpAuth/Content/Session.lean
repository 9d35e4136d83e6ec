import HttpAuth.Content.Basic

/-!
# Iterators over a content

A session is a content together with its iterators.  Iterators over a stream share it.  An iterator
that was started releases the content when it ends, fails or is closed, unless the content can be
read again.
-/

namespace HttpAuth

/-- Where an iterator stands. -/
inductive Cursor where
  /-- It has not been started. -/
  | fresh
  /-- It has these chunks left, which are in memory. -/
  | items (rest : List Octets)
  /-- It takes chunks from the stream. -/
  | stream
  /-- It has ended. -/
  | done
  deriving Repr, DecidableEq

/-- A content and its iterators. -/
structure Session where
  /-- The content. -/
  content : Content
  /-- The iterators, in the order of their making. -/
  cursors : List Cursor := []
  deriving Repr, DecidableEq

/-- An operation of a session. -/
inductive Operation where
  /-- Read everything that is left. -/
  | read
  /-- Release the content. -/
  | close
  /-- Iterate from the start to the end. -/
  | drain
  /-- Ask whether the content can be read again. -/
  | replayable
  /-- Make an iterator. -/
  | iterate
  /-- Advance an iterator. -/
  | next (index : Nat)
  /-- Close an iterator early. -/
  | abandon (index : Nat)
  deriving Repr, DecidableEq

/-- The answer to an operation. -/
inductive Answer where
  /-- There is nothing to say. -/
  | nothing
  /-- Bytes that were read, or a chunk. -/
  | octets (data : Octets)
  /-- All chunks of an iteration. -/
  | chunks (items : List Octets)
  /-- A truth value. -/
  | flag (value : Bool)
  /-- The number of a new iterator. -/
  | iterator (index : Nat)
  /-- The iterator has ended. -/
  | finished
  deriving Repr, DecidableEq

namespace Content

/-- Where an iterator stands when it is started. -/
def firstCursor (content : Content) : Cursor :=
  match content.supply with
  | .bytes data => .items (chunksOfBytes data)
  | .chunks items => .items items
  | .stream _ => .stream

/-- End an iterator, with a failure if there was one. -/
def endIteration (content : Content) (reason : Option Failure) : Cursor × Outcome Answer :=
  (.done, content.finish reason .finished)

/-- Take the next chunk for an iterator that was started. -/
def advanceStarted (content : Content) : Cursor → Cursor × Outcome Answer
  | .items (item :: rest) => (.items rest, { content, events := [], result := .ok (.octets item) })
  | .stream =>
      match content.supply with
      | .stream stream =>
          match stream.pending with
          | item :: rest =>
              (.stream,
                { content :=
                    { content with
                      supply := .stream { stream with taken := stream.taken + 1, pending := rest } }
                  events := stream.announcements 1
                  result := .ok (.octets item) })
          | [] =>
              { content with supply := .stream { stream with failure := none } }.endIteration
                stream.failure
      | _ => content.endIteration none
  | .items [] => content.endIteration none
  | .fresh | .done => (.done, { content, events := [], result := .ok .finished })

/-- Take the next chunk for an iterator, which is started if it has not been. -/
def advance (content : Content) : Cursor → Cursor × Outcome Answer
  | .fresh => content.advanceStarted content.firstCursor
  | cursor => content.advanceStarted cursor

/-- Close an iterator early.  One that runs releases the content itself, and not the contents that
it encloses. -/
def abandon (content : Content) : Cursor → Outcome Answer
  | .fresh | .done => { content, events := [], result := .ok .nothing }
  | _ =>
      if content.replayable then
        { content, events := [], result := .ok .nothing }
      else
        { content := content.close.content
          events := content.close.events
          result := content.close.result.map fun _ => .nothing }

end Content

namespace Session

/-- Keep the outcome of an operation that has no effect on iterators. -/
def plain {α : Type} (session : Session) (outcome : Outcome α) (answer : α → Answer) :
    Session × List Event × Except Failure Answer :=
  ({ session with content := outcome.content }, outcome.events, outcome.result.map answer)

/-- Keep the outcome of an operation on an iterator. -/
def moved (session : Session) (index : Nat) (cursor : Cursor) (outcome : Outcome Answer) :
    Session × List Event × Except Failure Answer :=
  ({ content := outcome.content, cursors := session.cursors.set index cursor }, outcome.events,
    outcome.result)

/-- Perform an operation: the session afterwards, what was observed, and the answer. -/
def step (session : Session) : Operation → Session × List Event × Except Failure Answer
  | .read => session.plain session.content.read .octets
  | .close => session.plain session.content.close fun _ => .nothing
  | .drain => session.plain session.content.drain .chunks
  | .replayable => (session, [], .ok (.flag session.content.replayable))
  | .iterate =>
      ({ session with cursors := session.cursors ++ [.fresh] }, [],
        .ok (.iterator session.cursors.length))
  | .next index =>
      let (cursor, outcome) := session.content.advance (session.cursors[index]?.getD .done)
      session.moved index cursor outcome
  | .abandon index =>
      session.moved index .done (session.content.abandon (session.cursors[index]?.getD .done))

/-- Perform operations one after another, failed ones included. -/
def run (session : Session) : List Operation → List (List Event × Except Failure Answer)
  | [] => []
  | operation :: others =>
      let (session, events, result) := session.step operation
      (events, result) :: session.run others

end Session
end HttpAuth
