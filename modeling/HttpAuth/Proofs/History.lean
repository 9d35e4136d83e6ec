import HttpAuth.Content.Session

/-!
# Histories of a session

The operations that were performed on a content, each with what was observed and how it was
answered.  A history alone tells which iterators are live, from their making until they end, fail or
are closed, and which chunks they have handed out.  The cursors of the session agree with that.
-/

namespace HttpAuth

/-- An operation that was performed. -/
structure Entry where
  /-- The operation. -/
  operation : Operation
  /-- What was observed. -/
  events : List Event
  /-- The answer, or the failure. -/
  answer : Except Failure Answer

namespace Session

/-- An operation as it is performed on a session. -/
def entry (session : Session) (operation : Operation) : Entry :=
  { operation
    events := (session.step operation).2.1
    answer := (session.step operation).2.2 }

/-- The session after an operation. -/
def next (session : Session) (operation : Operation) : Session :=
  (session.step operation).1

/-- The session after operations. -/
def after (session : Session) (operations : List Operation) : Session :=
  operations.foldl next session

/-- The history of operations that are performed one after another. -/
def history (session : Session) : List Operation → List Entry
  | [] => []
  | operation :: others => session.entry operation :: (session.next operation).history others

variable (session : Session)

/-- A history holds what a run answers. -/
theorem run_eq_history (operations : List Operation) :
    session.run operations =
      (session.history operations).map fun entry => (entry.events, entry.answer) := by
  induction operations generalizing session with
  | nil => rfl
  | cons operation others induction => exact congrArg _ (induction (session.next operation))

theorem operations_history (operations : List Operation) :
    (session.history operations).map Entry.operation = operations := by
  induction operations generalizing session with
  | nil => rfl
  | cons operation others induction => exact congrArg _ (induction (session.next operation))

theorem history_concat (operations : List Operation) (operation : Operation) :
    session.history (operations ++ [operation]) =
      session.history operations ++ [(session.after operations).entry operation] := by
  induction operations generalizing session with
  | nil => rfl
  | cons first others induction =>
      exact congrArg (session.entry first :: ·) (induction (session.next first))

/-- Every entry of a history was performed on the session as the entries before left it. -/
theorem exists_of_history {operations : List Operation} {before later : List Entry} {entry : Entry}
    (split : session.history operations = before ++ entry :: later) :
    ∃ earlier operation, before = session.history earlier ∧
      entry = (session.after earlier).entry operation := by
  induction operations generalizing session before with
  | nil => cases before <;> cases split
  | cons operation others induction =>
      cases before with
      | nil =>
          obtain ⟨same, -⟩ := List.cons.inj split
          exact ⟨[], operation, rfl, same.symm⟩
      | cons first before =>
          obtain ⟨rfl, rest⟩ := List.cons.inj split
          obtain ⟨earlier, last, rfl, entry_eq⟩ := induction (session.next operation) rest
          exact ⟨operation :: earlier, last, rfl, entry_eq⟩

/-- What holds at the start and is kept by every operation holds after all operations. -/
theorem invariant_history (kept : Session → List Entry → Prop) (start : kept session [])
    (step : ∀ session history operation, kept session history →
      kept (session.next operation) (history ++ [session.entry operation]))
    (operations : List Operation) :
    kept (session.after operations) (session.history operations) := by
  have from_entries (entries : List Entry) (reached : Session) (holds : kept reached entries) :
      kept (reached.after operations) (entries ++ reached.history operations) := by
    induction operations generalizing entries reached with
    | nil => simpa [after, history] using holds
    | cons operation others induction =>
        have later := induction _ _ (step reached entries operation holds)
        rwa [List.append_assoc] at later
  exact from_entries [] session start

end Session

/-! ## Live iterators -/

/-- What an iterator has handed out once it was advanced, if it still is live. -/
def handedAfter (handed? : Option (List Octets)) : Except Failure Answer → Option (List Octets)
  | .ok (.octets chunk) => handed?.map (· ++ [chunk])
  | _ => none

/-- What the iterators have handed out once an operation was performed, as far as they are live. -/
def Entry.follow (handed : List (Option (List Octets))) (entry : Entry) :
    List (Option (List Octets)) :=
  match entry.operation with
  | .iterate => handed ++ [some []]
  | .next index => handed.modify index (handedAfter · entry.answer)
  | .abandon index => handed.modify index fun _ => none
  | _ => handed

/-- What the iterators have handed out, as far as they are live. -/
def handouts (history : List Entry) : List (Option (List Octets)) :=
  history.foldl Entry.follow []

/-- The chunks that a live iterator has handed out. -/
def live? (history : List Entry) (index : Nat) : Option (List Octets) :=
  (handouts history)[index]?.join

theorem handouts_concat (history : List Entry) (entry : Entry) :
    handouts (history ++ [entry]) = entry.follow (handouts history) := by
  simp [handouts]

/-- The chunks of a supply in memory, from which every iteration starts anew. -/
def Supply.memory? : Supply → Option (List Octets)
  | .bytes data => some (Content.chunksOfBytes data)
  | .chunks items => some items
  | .stream _ => none

/-- A cursor stands where the chunks that its iterator has handed out say. -/
inductive Stands (memory? : Option (List Octets)) : Cursor → Option (List Octets) → Prop where
  /-- The iterator is not live. -/
  | lapsed : Stands memory? .done none
  /-- The iterator has not been started. -/
  | fresh : Stands memory? .fresh (some [])
  /-- The chunks that are left come from memory. -/
  | items {handed rest} (memory : memory? = some (handed ++ rest)) (started : handed ≠ []) :
      Stands memory? (.items rest) (some handed)
  /-- The chunks that are left come from a stream. -/
  | stream {handed} (streamed : memory? = none) (started : handed ≠ []) :
      Stands memory? .stream (some handed)

/-- The ways to advance an iterator that has handed out these chunks, if it is live. -/
inductive Advances (content : Content) :
    Option (List Octets) → Cursor × Outcome Answer → Prop where
  /-- The iterator is not live. -/
  | lapsed : Advances content none (.done, { content, events := [], result := .ok .finished })
  /-- It hands out a chunk from memory. -/
  | item {handed chunk rest} (memory : content.supply.memory? = some (handed ++ chunk :: rest)) :
      Advances content (some handed)
        (.items rest, { content, events := [], result := .ok (.octets chunk) })
  /-- It hands out the next chunk of the stream. -/
  | chunk {handed stream chunk rest} (supply : content.supply = .stream stream)
      (pending : stream.pending = chunk :: rest) :
      Advances content (some handed)
        (.stream,
          { content :=
              { content with
                supply := .stream { stream with taken := stream.taken + 1, pending := rest } }
            events := stream.announcements 1
            result := .ok (.octets chunk) })
  /-- It ends with the chunks in memory. -/
  | ended {handed} (memory : content.supply.memory? = some handed) :
      Advances content (some handed) (content.endIteration none)
  /-- It ends with the stream, or fails with it. -/
  | exhausted {handed stream} (supply : content.supply = .stream stream)
      (pending : stream.pending = []) :
      Advances content (some handed)
        ({ content with supply := .stream { stream with failure := none } }.endIteration
          stream.failure)

namespace Content

variable (content : Content)

theorem finish_supply {α : Type} (reason : Option Failure) (value : α) :
    (content.finish reason value).content.supply = content.supply := by
  simp only [finish]

theorem endIteration_supply (reason : Option Failure) :
    (content.endIteration reason).2.content.supply = content.supply :=
  content.finish_supply reason _

/-- Ending an iteration hands out no chunk. -/
theorem handedAfter_endIteration (reason : Option Failure) (handed? : Option (List Octets)) :
    handedAfter handed? (content.endIteration reason).2.result = none := by
  simp only [endIteration, finish]
  generalize (if content.replayable = true then _ else _ : _ × _ × _ × _) = released
  cases released.2.2.2 <;> rfl

theorem memory?_drain : content.drain.content.supply.memory? = content.supply.memory? := by
  cases supply : content.supply <;> simp only [drain, supply, finish_supply, Supply.memory?]

theorem memory?_read : content.read.content.supply.memory? = content.supply.memory? := by
  rw [read]
  split
  · rfl
  · exact content.memory?_drain

theorem abandon_supply (cursor : Cursor) :
    (content.abandon cursor).content.supply = content.supply := by
  cases cursor with
  | fresh | done => rfl
  | items | stream =>
      simp only [abandon]
      split <;> rfl

theorem advances_started {cursor : Cursor} {handed : List Octets}
    (stands : cursor = content.firstCursor ∧ handed = [] ∨
      cursor ≠ .fresh ∧ Stands content.supply.memory? cursor (some handed)) :
    Advances content (some handed) (content.advanceStarted cursor) := by
  have of_memory {rest : List Octets} (memory : content.supply.memory? = some (handed ++ rest)) :
      Advances content (some handed) (content.advanceStarted (.items rest)) := by
    cases rest with
    | nil =>
        rw [List.append_nil] at memory
        exact .ended memory
    | cons chunk rest => exact .item memory
  have of_stream {stream : Stream} (supply : content.supply = .stream stream) :
      Advances content (some handed) (content.advanceStarted .stream) := by
    simp only [advanceStarted, supply]
    split
    · rename_i pending
      exact .chunk supply pending
    · rename_i pending
      exact .exhausted supply pending
  rcases stands with ⟨rfl, rfl⟩ | ⟨unfresh, stands⟩
  · rw [firstCursor]
    split
    all_goals rename_i supply
    · exact of_memory (by rw [supply]; rfl)
    · exact of_memory (by rw [supply]; rfl)
    · exact of_stream supply
  · cases stands with
    | fresh => exact absurd rfl unfresh
    | items memory started => exact of_memory memory
    | stream streamed started =>
        cases supply : content.supply with
        | bytes | chunks =>
            rw [supply] at streamed
            cases streamed
        | stream source => exact of_stream supply

/-- An iterator is advanced in one of the ways. -/
theorem advances_advance {cursor : Cursor} {handed? : Option (List Octets)}
    (stands : Stands content.supply.memory? cursor handed?) :
    Advances content handed? (content.advance cursor) := by
  cases stands with
  | lapsed => exact .lapsed
  | fresh => exact content.advances_started (.inl ⟨rfl, rfl⟩)
  | @items _ rest memory started =>
      have unfresh : Cursor.items rest ≠ .fresh := nofun
      exact content.advances_started (.inr ⟨unfresh, .items memory started⟩)
  | stream streamed started =>
      have unfresh : Cursor.stream ≠ .fresh := nofun
      exact content.advances_started (.inr ⟨unfresh, .stream streamed started⟩)

end Content

/-- A cursor that was advanced stands where the answer says. -/
theorem Advances.stands {content : Content} {handed? : Option (List Octets)}
    {advanced : Cursor × Outcome Answer} (advances : Advances content handed? advanced) :
    advanced.2.content.supply.memory? = content.supply.memory? ∧
      Stands content.supply.memory? advanced.1 (handedAfter handed? advanced.2.result) := by
  cases advances with
  | lapsed => exact ⟨rfl, .lapsed⟩
  | item memory =>
      refine ⟨rfl, .items ?_ (by simp)⟩
      rw [memory, List.append_assoc]
      rfl
  | chunk supply pending =>
      rw [supply]
      exact ⟨rfl, .stream rfl (by simp)⟩
  | ended memory =>
      rw [Content.handedAfter_endIteration, Content.endIteration_supply]
      exact ⟨rfl, .lapsed⟩
  | exhausted supply pending =>
      rw [Content.handedAfter_endIteration, Content.endIteration_supply, supply]
      exact ⟨rfl, .lapsed⟩

namespace Session

/-- The cursors of a session stand where a history says. -/
structure Agrees (session : Session) (history : List Entry) : Prop where
  /-- The history knows of all iterators. -/
  count : session.cursors.length = (handouts history).length
  /-- A missing iterator counts as one that is not live. -/
  stands : ∀ index, Stands session.content.supply.memory? (session.cursors[index]?.getD .done)
    (live? history index)

section Steps

variable {session next : Session} {history : List Entry} {entry : Entry}

/-- An operation that touches no iterator. -/
theorem Agrees.of_plain (agrees : session.Agrees history)
    (memory : next.content.supply.memory? = session.content.supply.memory?)
    (cursors : next.cursors = session.cursors)
    (handed : handouts (history ++ [entry]) = handouts history) :
    next.Agrees (history ++ [entry]) := by
  refine ⟨by rw [cursors, handed, agrees.count], fun index => ?_⟩
  rw [live?, handed, memory, cursors]
  exact agrees.stands index

/-- An operation that makes an iterator. -/
theorem Agrees.of_made (agrees : session.Agrees history)
    (memory : next.content.supply.memory? = session.content.supply.memory?)
    (cursors : next.cursors = session.cursors ++ [.fresh])
    (handed : handouts (history ++ [entry]) = handouts history ++ [some []]) :
    next.Agrees (history ++ [entry]) := by
  have count := agrees.count
  refine ⟨by rw [cursors, handed, List.length_append, List.length_append, count]; rfl, ?_⟩
  intro index
  have known := agrees.stands index
  rw [live?] at known ⊢
  rw [handed, memory, cursors]
  rcases Nat.lt_trichotomy index session.cursors.length with made | new | unmade
  · rwa [List.getElem?_append_left made, List.getElem?_append_left (by omega)]
  · subst new
    rw [List.getElem?_concat_length, count, List.getElem?_concat_length]
    exact .fresh
  · rw [List.getElem?_eq_none (by simp; omega), List.getElem?_eq_none (by simp; omega)]
    exact .lapsed

/-- An operation on one iterator touches no other. -/
theorem Agrees.of_moved {index : Nat} {cursor : Cursor}
    {follow : Option (List Octets) → Option (List Octets)} (agrees : session.Agrees history)
    (memory : next.content.supply.memory? = session.content.supply.memory?)
    (cursors : next.cursors = session.cursors.set index cursor)
    (handed : handouts (history ++ [entry]) = (handouts history).modify index follow)
    (moved : Stands session.content.supply.memory? cursor (follow (live? history index))) :
    next.Agrees (history ++ [entry]) := by
  have count := agrees.count
  refine ⟨by rw [cursors, handed, List.length_modify, List.length_set, count], fun other => ?_⟩
  rw [memory, cursors, live?, handed, List.getElem?_modify, List.getElem?_set]
  by_cases same : index = other
  · subst same
    rw [live?] at moved
    by_cases made : index < session.cursors.length
    · have known : index < (handouts history).length := by omega
      simp only [List.getElem?_eq_getElem known] at moved ⊢
      simpa [made] using moved
    · have unknown : (handouts history).length ≤ index := by omega
      simp [made, List.getElem?_eq_none unknown, Stands.lapsed]
  · have other_stands := agrees.stands other
    rw [live?] at other_stands
    simpa [same] using other_stands

end Steps

variable {session : Session} {history : List Entry}

/-- An operation leaves the chunks in memory as they are. -/
theorem Agrees.memory?_next (agrees : session.Agrees history) (operation : Operation) :
    (session.next operation).content.supply.memory? = session.content.supply.memory? := by
  cases operation with
  | read => exact session.content.memory?_read
  | drain => exact session.content.memory?_drain
  | close | replayable | iterate => rfl
  | next index => exact (session.content.advances_advance (agrees.stands index)).stands.1
  | abandon index =>
      exact congrArg Supply.memory?
        (session.content.abandon_supply (session.cursors[index]?.getD .done))

/-- The cursors stand where the history says after an operation. -/
theorem Agrees.next (agrees : session.Agrees history) (operation : Operation) :
    (session.next operation).Agrees (history ++ [session.entry operation]) := by
  have memory := agrees.memory?_next operation
  cases operation with
  | read | close | drain | replayable => exact agrees.of_plain memory rfl (handouts_concat _ _)
  | iterate => exact agrees.of_made memory rfl (handouts_concat _ _)
  | next index =>
      have advanced := (session.content.advances_advance (agrees.stands index)).stands.2
      exact agrees.of_moved memory rfl (handouts_concat _ _) advanced
  | abandon index => exact agrees.of_moved memory rfl (handouts_concat _ _) .lapsed

end Session
end HttpAuth
