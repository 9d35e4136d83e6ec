import HttpAuth.Proofs.Body
import HttpAuth.Proofs.History

/-!
# What an operation takes and releases

An operation takes some chunks from the stream, if there is one, and releases nothing, the content
itself, or everything.  How many chunks, what is released and what is answered depends only on what
is left of the supply and on the chunks that a live iterator has handed out.
-/

namespace HttpAuth

/-! ## Releasing -/

namespace Gate

/-- The release that is still to be recorded. -/
def due (gate : Gate) : List Event :=
  if gate.closed then [] else if gate.hook.isSome then [gate.record] else []

/-- The gate of a content that has been released. -/
def released (gate : Gate) : Gate :=
  { gate with closed := true }

@[simp] theorem released_due (gate : Gate) : gate.released.due = [] :=
  rfl

@[simp] theorem released_failure? (gate : Gate) : gate.released.failure? = gate.failure? :=
  rfl

/-- A release that fails is set to fail, and fails as that of its owner. -/
theorem failure?_eq {gate : Gate} {reason : Failure} (fails : gate.failure? = some reason) :
    gate.hook = some .failing ∧ reason = .closing gate.owner := by
  rw [failure?] at fails
  split at fails
  · rename_i failing
    exact ⟨failing, (Option.some.inj fails).symm⟩
  · cases fails

/-- Releasing records what was due, and fails only if it is set to fail. -/
theorem close_eq (gate : Gate) :
    gate.close.1 = gate.released ∧ gate.close.2.1 = gate.due ∧
      ∀ failure, gate.close.2.2 = some failure → gate.failure? = some failure := by
  obtain ⟨owner, layer, hook, closed⟩ := gate
  cases closed with
  | true =>
      refine ⟨rfl, rfl, fun failure failed => ?_⟩
      cases failed
  | false => exact ⟨rfl, rfl, fun failure failed => failed⟩

/-- Releasing in order records all that was due; a new failure is that of a release. -/
theorem closeAll_eq (gates : List Gate) (reason : Option Failure) :
    (closeAll gates reason).1 = gates.map released ∧
      (closeAll gates reason).2.1 = gates.flatMap due ∧
      ∀ failure, (closeAll gates reason).2.2 = some failure →
        (∃ gate ∈ gates, gate.failure? = some failure) ∨ reason = some failure := by
  induction gates generalizing reason with
  | nil => exact ⟨rfl, rfl, fun failure failed => .inr failed⟩
  | cons gate others induction =>
      obtain ⟨gate_eq, events_eq, closing⟩ := gate.close_eq
      obtain ⟨others_eq, later_eq, last⟩ := induction (gate.close.2.2 <|> reason)
      simp only [closeAll, gate_eq, events_eq, others_eq, later_eq]
      refine ⟨rfl, rfl, fun failure failed => ?_⟩
      rcases last failure failed with ⟨failing, inside, fails⟩ | kept
      · exact .inl ⟨failing, List.mem_cons_of_mem _ inside, fails⟩
      · cases closed : gate.close.2.2 with
        | none =>
            rw [closed] at kept
            exact .inr kept
        | some cause =>
            rw [closed] at kept
            obtain rfl := Option.some.inj kept
            exact .inl ⟨gate, List.mem_cons_self, closing cause closed⟩

end Gate

/-- What an operation releases. -/
inductive Release where
  /-- Nothing. -/
  | nothing
  /-- The content itself, and none of the contents that it encloses. -/
  | own
  /-- The enclosed contents and then the content itself. -/
  | everything
  deriving DecidableEq

namespace Content

variable (content : Content)

/-- The releases of a content and its enclosed contents that are still to be recorded. -/
def due : List Event :=
  content.gates.flatMap Gate.due

/-- The content once something was released. -/
def released : Release → Content
  | .nothing => content
  | .own => { content with gate := content.gate.released }
  | .everything =>
      { content with
        inner := content.inner.map Gate.released, gate := content.gate.released }

/-- The records of releasing something. -/
def releases : Release → List Event
  | .nothing => []
  | .own => content.gate.due
  | .everything => content.due

/-- What is released with an iteration: nothing, if the content can be read again. -/
def withIteration (release : Release) : Release :=
  if content.replayable then .nothing else release

variable {content} in
theorem withIteration_of_replayable (replayable : content.replayable = true) (release : Release) :
    content.withIteration release = .nothing :=
  if_pos replayable

variable {content} in
theorem withIteration_of_once (once : content.replayable = false) (release : Release) :
    content.withIteration release = release :=
  if_neg (Bool.eq_false_iff.mp once)

/-- The failures that releases of a content can cause. -/
def Closing (failure : Failure) : Prop :=
  ∃ gate ∈ content.gates, gate.failure? = some failure

end Content

/-! ## Taking -/

namespace Supply

/-- The number of chunks that a stream still has to hand out. -/
def left : Supply → Nat
  | .stream source => source.pending.length
  | _ => 0

/-- How a stream ends after its chunks, when it does not just end. -/
def failure? : Supply → Option Failure
  | .stream source => source.failure
  | _ => none

/-- The records of handing out so many chunks. -/
def announce (supply : Supply) (count : Nat) : List Event :=
  match supply with
  | .stream source => source.announcements count
  | _ => []

/-- A supply before and after chunks were taken from it. -/
inductive Takes : Supply → Nat → Supply → Prop where
  /-- Nothing is taken. -/
  | nothing (supply : Supply) : Takes supply 0 supply
  /-- The next chunks of a stream are taken. -/
  | chunks {before after : Stream} {count : Nat} (enough : count ≤ before.pending.length)
      (owner : after.owner = before.owner) (announced : after.announced = before.announced)
      (taken : after.taken = before.taken + count)
      (pending : after.pending = before.pending.drop count)
      (failure : after.failure = before.failure ∨ after.failure = none) :
      Takes (.stream before) count (.stream after)

variable {before middle after : Supply} {first second : Nat}

theorem announce_zero (supply : Supply) : supply.announce 0 = [] := by
  cases supply with
  | bytes | chunks => rfl
  | stream source => simp [announce, Stream.announcements]

/-- What is taken is taken from the front of what was left. -/
theorem Takes.items (takes : before.Takes first after) :
    first ≤ before.left ∧ after.items = before.items.drop first := by
  cases takes with
  | nothing => exact ⟨Nat.zero_le _, rfl⟩
  | chunks enough _ _ _ pending _ => exact ⟨enough, pending⟩

theorem Takes.trans (takes : before.Takes first middle) (later : middle.Takes second after) :
    before.Takes (first + second) after := by
  cases takes with
  | nothing =>
      rw [Nat.zero_add]
      exact later
  | chunks enough owner announced taken pending failure =>
      cases later with
      | nothing => exact .chunks enough owner announced taken pending failure
      | chunks enough' owner' announced' taken' pending' failure' =>
          rw [pending, List.length_drop] at enough'
          refine .chunks (by omega) (owner'.trans owner) (announced'.trans announced) (by omega)
            ?_ ?_
          · rw [pending', pending, List.drop_drop]
          · rcases failure' with kept | spent
            · rwa [kept]
            · exact .inr spent

/-- Chunks are numbered in the order in which they are taken. -/
theorem Takes.announce_add (takes : before.Takes first middle) (count : Nat) :
    before.announce (first + count) = before.announce first ++ middle.announce count := by
  cases takes with
  | nothing => rw [announce_zero, Nat.zero_add, List.nil_append]
  | @chunks before middle _ enough owner announced taken pending failure =>
      simp only [announce, Stream.announcements, owner, announced, taken]
      split
      · rw [← List.map_append, ← List.range'_append_1]
      · rfl

end Supply

/-! ## Operations -/

/-- A value, unless there is a failure. -/
def ending {α : Type} (value : α) : Option Failure → Except Failure α
  | none => .ok value
  | some failure => .error failure

theorem map_ending {α β : Type} (f : α → β) (value : α) (reason : Option Failure) :
    (ending value reason).map f = ending (f value) reason := by
  cases reason <;> rfl

/-- A failure at the end of an iteration is that of the stream or that of a release. -/
def Content.EndsWith (content : Content) (reason : Option Failure) : Prop :=
  ∀ failure, reason = some failure →
    content.Closing failure ∨ content.supply.failure? = some failure

/-- The number of chunks that an operation takes, what it releases and what it answers.  The live
iterators are given by the chunks that they have handed out. -/
inductive Performs (content : Content) (live? : Nat → Option (List Octets)) :
    Operation → Nat → Release → Except Failure Answer → Prop where
  /-- Bytes are read without an iteration. -/
  | readBytes {data} (supply : content.supply = .bytes data) :
      Performs content live? .read 0 .nothing (.ok (.octets data))
  /-- All that is left is read. -/
  | read {reason} (once : content.replayable = false) (ends : content.EndsWith reason) :
      Performs content live? .read content.supply.left .everything
        (ending (.octets content.supply.items.flatten) reason)
  /-- The content is released. -/
  | close {reason} (closing : ∀ failure, reason = some failure → content.Closing failure) :
      Performs content live? .close 0 .own (ending .nothing reason)
  /-- An iteration from the start to the end. -/
  | drain {reason} (ends : content.EndsWith reason)
      (quiet : content.replayable = true → reason = none) :
      Performs content live? .drain content.supply.left (content.withIteration .everything)
        (ending (.chunks content.supply.items) reason)
  /-- The content is asked whether it can be read again. -/
  | replayable :
      Performs content live? .replayable 0 .nothing (.ok (.flag content.replayable))
  /-- A new iterator. -/
  | iterate {index} : Performs content live? .iterate 0 .nothing (.ok (.iterator index))
  /-- An iterator that is not live has no more chunks. -/
  | lapsed {index} (dead : live? index = none) :
      Performs content live? (.next index) 0 .nothing (.ok .finished)
  /-- An iterator hands out a chunk from memory. -/
  | item {index handed chunk rest} (live : live? index = some handed)
      (memory : content.supply.memory? = some (handed ++ chunk :: rest)) :
      Performs content live? (.next index) 0 .nothing (.ok (.octets chunk))
  /-- An iterator hands out the next chunk of the stream. -/
  | chunk {index handed chunk rest} (live : live? index = some handed)
      (streamed : content.supply.memory? = none) (items : content.supply.items = chunk :: rest) :
      Performs content live? (.next index) 1 .nothing (.ok (.octets chunk))
  /-- An iterator ends with the chunks. -/
  | ended {index handed reason} (live : live? index = some handed)
      (exhausted : content.supply.memory? = some handed ∨
        content.supply.memory? = none ∧ content.supply.items = [])
      (ends : content.EndsWith reason) (quiet : content.replayable = true → reason = none) :
      Performs content live? (.next index) 0 (content.withIteration .everything)
        (ending .finished reason)
  /-- An iterator is closed that was not started or is not live. -/
  | dropped {index} (unstarted : live? index = none ∨ live? index = some []) :
      Performs content live? (.abandon index) 0 .nothing (.ok .nothing)
  /-- An iterator that runs is closed early. -/
  | abandoned {index handed reason} (live : live? index = some handed) (started : handed ≠ [])
      (closing : ∀ failure, reason = some failure → content.Closing failure) :
      Performs content live? (.abandon index) 0 (content.withIteration .own)
        (ending .nothing reason)

/-- What is left of a content from which chunks were taken and which was released, and what was
observed of it. -/
structure Effect (before : Content) (taken : Nat) (release : Release) (after : Content)
    (events : List Event) : Prop where
  /-- Chunks are taken before anything is released. -/
  events_eq : events = before.supply.announce taken ++ before.releases release
  /-- The chunks are taken from the supply. -/
  supply : before.supply.Takes taken after.supply
  /-- The enclosed contents that are released. -/
  inner_eq : after.inner = (before.released release).inner
  /-- The content itself is released, or not. -/
  gate_eq : after.gate = (before.released release).gate

theorem Effect.replayable_eq {before after : Content} {taken : Nat} {release : Release}
    {events : List Event} (effect : Effect before taken release after events) :
    after.replayable = before.replayable := by
  have takes := effect.supply
  simp only [Content.replayable]
  generalize before.supply = given, after.supply = left at takes
  cases takes <;> rfl

theorem Effect.failures_eq {before after : Content} {taken : Nat} {release : Release}
    {events : List Event} (effect : Effect before taken release after events) :
    after.gates.map Gate.failure? = before.gates.map Gate.failure? := by
  rw [Content.gates, effect.inner_eq, effect.gate_eq]
  cases release <;> simp [Content.released, Content.gates]

/-- Taking chunks first. -/
theorem Effect.after_taking {before after : Content} {supply : Supply} {taken : Nat}
    {release : Release} {events : List Event}
    (effect : Effect { before with supply } 0 release after events)
    (takes : before.supply.Takes taken supply) :
    Effect before taken release after (before.supply.announce taken ++ events) := by
  obtain ⟨events_eq, later, inner_eq, gate_eq⟩ := effect
  rw [Supply.announce_zero] at events_eq
  refine ⟨?_, takes.trans later, ?_, ?_⟩
  · rw [events_eq]
    cases release <;> rfl
  · rw [inner_eq]
    cases release <;> rfl
  · rw [gate_eq]
    cases release <;> rfl

namespace Content

variable (content : Content)

/-- Releasing a content itself. -/
theorem close_eq :
    content.close.content = content.released .own ∧ content.close.events = content.releases .own ∧
      ∃ reason, content.close.result = ending () reason ∧
        ∀ failure, reason = some failure → content.Closing failure := by
  obtain ⟨gate_eq, events_eq, closing⟩ := content.gate.close_eq
  refine ⟨congrArg (fun gate => { content with gate }) gate_eq, events_eq, content.gate.close.2.2,
    ?_, fun failure failed => ⟨content.gate, by simp [gates], closing failure failed⟩⟩
  simp only [close]
  cases content.gate.close.2.2 <;> rfl

/-- Ending an iteration releases everything, unless the content can be read again; a new failure is
that of a release. -/
theorem finish_effect {α : Type} (reason : Option Failure) (value : α) :
    Effect content 0 (content.withIteration .everything) (content.finish reason value).content
        (content.finish reason value).events ∧
      ∃ last, (content.finish reason value).result = ending value last ∧
        (content.replayable = true → last = reason) ∧
        ∀ failure, last = some failure → content.Closing failure ∨ reason = some failure := by
  have same_supply : content.supply.Takes 0 (content.finish reason value).content.supply := by
    rw [finish_supply]
    exact .nothing _
  cases replayable : content.replayable with
  | true =>
      rw [withIteration_of_replayable replayable]
      refine ⟨⟨?_, same_supply, ?_, ?_⟩, reason, ?_, fun _ => rfl,
        fun failure failed => .inr failed⟩
      all_goals simp only [finish, replayable, ↓reduceIte]
      · rw [Supply.announce_zero]
        rfl
      · rfl
      · rfl
      · cases reason <;> rfl
  | false =>
      obtain ⟨inner_eq, early_eq, early⟩ := Gate.closeAll_eq content.inner reason
      obtain ⟨gate_eq, late_eq, late⟩ := content.gate.close_eq
      rw [withIteration_of_once replayable]
      refine ⟨⟨?_, same_supply, ?_, ?_⟩,
        content.gate.close.2.2 <|> (Gate.closeAll content.inner reason).2.2, ?_,
        fun always => absurd always Bool.false_ne_true, ?_⟩
      · simp [finish, replayable, early_eq, late_eq, Supply.announce_zero, releases, due, gates]
      · simp [finish, replayable, inner_eq, Content.released]
      · simp [finish, replayable, gate_eq, Content.released]
      · simp only [finish, replayable, Bool.false_eq_true, ↓reduceIte]
        cases content.gate.close.2.2 <|> (Gate.closeAll content.inner reason).2.2 <;> rfl
      · intro failure failed
        cases last : content.gate.close.2.2 with
        | some closing =>
            rw [last] at failed
            obtain rfl := Option.some.inj failed
            exact .inl ⟨content.gate, by simp [gates], late _ last⟩
        | none =>
            rw [last] at failed
            refine (early failure failed).imp_left ?_
            rintro ⟨gate, inside, fails⟩
            exact ⟨gate, by simp [gates, inside], fails⟩

/-- An iteration from the start to the end. -/
theorem drain_effect :
    Effect content content.supply.left (content.withIteration .everything) content.drain.content
        content.drain.events ∧
      ∃ reason, content.drain.result = ending content.supply.items reason ∧
        content.EndsWith reason ∧ (content.replayable = true → reason = none) := by
  cases supply : content.supply with
  | bytes | chunks =>
      obtain ⟨effect, reason, result_eq, quiet, closing⟩ :=
        content.finish_effect none content.supply.items
      have drain_eq : content.drain = content.finish none content.supply.items := by
        simp only [drain, supply, Supply.items]
      have none_left : content.supply.left = 0 := by rw [supply]; rfl
      rw [← supply, none_left, drain_eq]
      refine ⟨effect, reason, result_eq, fun failure failed => .inl ?_, quiet⟩
      exact (closing failure failed).resolve_right (Option.some_ne_none failure).symm
  | stream source =>
      let spent : Stream :=
        { source with
          taken := source.taken + source.pending.length, pending := [], failure := none }
      let ended := { content with supply := .stream spent }
      let outcome := ended.finish source.failure source.pending
      have drain_eq : content.drain =
          { outcome with
            events := source.announcements source.pending.length ++ outcome.events } := by
        simp only [drain, supply]
        rfl
      have takes : content.supply.Takes source.pending.length (.stream spent) := by
        rw [supply]
        exact .chunks (Nat.le_refl _) rfl rfl rfl List.drop_length.symm (.inr rfl)
      have once : ended.withIteration .everything = content.withIteration .everything := by
        simp [withIteration, replayable, supply, ended]
      obtain ⟨effect, reason, result_eq, -, closing⟩ :=
        ended.finish_effect source.failure source.pending
      rw [once] at effect
      have drained := effect.after_taking takes
      rw [supply] at drained
      rw [drain_eq]
      refine ⟨drained, reason, result_eq, fun failure failed => ?_, ?_⟩
      · rw [supply]
        exact closing failure failed
      · simp [replayable, supply]

/-- An operation that takes and releases nothing. -/
theorem no_effect : Effect content 0 .nothing content [] :=
  ⟨by rw [Supply.announce_zero]; rfl, .nothing _, rfl, rfl⟩

theorem close_effect : Effect content 0 .own content.close.content content.close.events := by
  obtain ⟨content_eq, events_eq, -⟩ := content.close_eq
  rw [content_eq, events_eq]
  exact ⟨by rw [Supply.announce_zero]; rfl, .nothing _, rfl, rfl⟩

end Content

/-- Reading a content performs the operation. -/
theorem Content.read_performs (content : Content) (live? : Nat → Option (List Octets)) :
    ∃ taken release,
      Performs content live? .read taken release (content.read.result.map .octets) ∧
        Effect content taken release content.read.content content.read.events := by
  cases supply : content.supply with
  | bytes data =>
      have read_eq : content.read = { content, events := [], result := .ok data } := by
        simp only [read, supply]
      rw [read_eq]
      exact ⟨0, .nothing, .readBytes supply, content.no_effect⟩
  | chunks | stream =>
      have read_eq : content.read =
          { content := content.drain.content
            events := content.drain.events
            result := content.drain.result.map List.flatten } := by
        simp only [read, supply]
      have once : content.replayable = false := by simp only [replayable, supply]
      obtain ⟨effect, reason, result_eq, ends, -⟩ := content.drain_effect
      rw [withIteration_of_once once] at effect
      refine ⟨content.supply.left, .everything, ?_, by rwa [read_eq]⟩
      rw [read_eq, result_eq, map_ending, map_ending]
      exact .read once ends

/-- Advancing an iterator performs the operation. -/
theorem Advances.performs {content : Content} {live? : Nat → Option (List Octets)} {index : Nat}
    {advanced : Cursor × Outcome Answer} (advances : Advances content (live? index) advanced) :
    ∃ taken release,
      Performs content live? (.next index) taken release advanced.2.result ∧
        Effect content taken release advanced.2.content advanced.2.events := by
  generalize live : live? index = handed? at advances
  cases advances with
  | lapsed => exact ⟨0, .nothing, .lapsed live, content.no_effect⟩
  | item memory => exact ⟨0, .nothing, .item live memory, content.no_effect⟩
  | @chunk _ source chunk rest supply pending =>
      have streamed : content.supply.memory? = none := by rw [supply]; rfl
      have items : content.supply.items = chunk :: rest := by rw [supply]; exact pending
      refine ⟨1, .nothing, .chunk live streamed items, ?_, ?_, rfl, rfl⟩
      · rw [supply]
        exact (List.append_nil _).symm
      · rw [supply]
        exact .chunks (by simp [pending]) rfl rfl rfl (by simp [pending]) (.inl rfl)
  | ended memory =>
      obtain ⟨effect, reason, result_eq, quiet, closing⟩ :=
        content.finish_effect none Answer.finished
      refine ⟨0, content.withIteration .everything, ?_, effect⟩
      change Performs _ _ _ _ _ (content.finish none Answer.finished).result
      rw [result_eq]
      refine .ended live (.inl memory) (fun failure failed => .inl ?_) quiet
      exact (closing failure failed).resolve_right (Option.some_ne_none failure).symm
  | @exhausted _ source supply pending =>
      let ended : Content :=
        { content with supply := .stream { source with failure := none } }
      have once : ended.withIteration .everything = content.withIteration .everything := by
        simp [Content.withIteration, Content.replayable, supply, ended]
      have streamed : content.supply.memory? = none := by rw [supply]; rfl
      have takes : content.supply.Takes 0 ended.supply := by
        rw [supply]
        exact .chunks (Nat.zero_le _) rfl rfl rfl rfl (.inr rfl)
      obtain ⟨effect, reason, result_eq, -, closing⟩ :=
        ended.finish_effect source.failure Answer.finished
      rw [once] at effect
      have taken := effect.after_taking takes
      rw [Supply.announce_zero] at taken
      refine ⟨0, content.withIteration .everything, ?_, taken⟩
      change Performs _ _ _ _ _ (ended.finish source.failure Answer.finished).result
      rw [result_eq]
      refine .ended live (.inr ⟨streamed, ?_⟩) (fun failure failed => ?_) ?_
      · rw [supply]
        exact pending
      · rw [supply]
        exact closing failure failed
      · simp [Content.replayable, supply]

/-- Closing an iterator early performs the operation. -/
theorem Stands.performs {content : Content} {live? : Nat → Option (List Octets)} {index : Nat}
    {cursor : Cursor} (stands : Stands content.supply.memory? cursor (live? index)) :
    ∃ taken release,
      Performs content live? (.abandon index) taken release (content.abandon cursor).result ∧
        Effect content taken release (content.abandon cursor).content
          (content.abandon cursor).events := by
  generalize live : live? index = handed? at stands
  cases stands with
  | lapsed => exact ⟨0, .nothing, .dropped (.inl live), content.no_effect⟩
  | fresh => exact ⟨0, .nothing, .dropped (.inr live), content.no_effect⟩
  | items supply started | stream supply started =>
      refine ⟨0, content.withIteration .own, ?_⟩
      cases replayable : content.replayable with
      | true =>
          have performs : Performs content live? (.abandon index) 0 (content.withIteration .own)
              (ending .nothing none) := .abandoned live started nofun
          simp only [Content.abandon, replayable, if_true]
          rw [Content.withIteration_of_replayable replayable] at performs ⊢
          exact ⟨performs, content.no_effect⟩
      | false =>
          obtain ⟨-, -, reason, result_eq, closing⟩ := content.close_eq
          simp only [Content.abandon, replayable, Bool.false_eq_true, if_false, result_eq,
            map_ending]
          have performs : Performs content live? (.abandon index) 0 (content.withIteration .own)
              (ending .nothing reason) := .abandoned live started closing
          rw [Content.withIteration_of_once replayable] at performs ⊢
          exact ⟨performs, content.close_effect⟩

/-- What an operation does when the cursors agree with the history. -/
theorem Session.Agrees.performs {session : Session} {history : List Entry}
    (agrees : session.Agrees history) (operation : Operation) :
    ∃ taken release,
      Performs session.content (live? history) operation taken release
          (session.entry operation).answer ∧
        Effect session.content taken release (session.next operation).content
          (session.entry operation).events := by
  cases operation with
  | read => exact session.content.read_performs _
  | close =>
      obtain ⟨-, -, reason, result_eq, closing⟩ := session.content.close_eq
      refine ⟨0, .own, ?_, session.content.close_effect⟩
      change Performs _ _ _ _ _ (session.content.close.result.map _)
      rw [result_eq, map_ending]
      exact .close closing
  | drain =>
      obtain ⟨effect, reason, result_eq, ends, quiet⟩ := session.content.drain_effect
      refine ⟨_, _, ?_, effect⟩
      change Performs _ _ _ _ _ (session.content.drain.result.map _)
      rw [result_eq, map_ending]
      exact .drain ends quiet
  | replayable => exact ⟨0, .nothing, .replayable, session.content.no_effect⟩
  | iterate => exact ⟨0, .nothing, .iterate, session.content.no_effect⟩
  | next index => exact (session.content.advances_advance (agrees.stands index)).performs
  | abandon index => exact (agrees.stands index).performs

/-- What holds of a content at the start and is kept by what operations do holds after all
operations, and before each of them. -/
theorem Content.invariant_history (content : Content) (kept : Content → List Entry → Prop)
    (start : kept content [])
    (step : ∀ {reached after history entry taken release}, kept reached history →
      Performs reached (live? history) entry.operation taken release entry.answer →
      Effect reached taken release after entry.events → kept after (history ++ [entry]))
    (operations : List Operation) :
    (∃ reached, kept reached (({ content } : Session).history operations)) ∧
      ∀ {earlier entry later},
        ({ content } : Session).history operations = earlier ++ entry :: later →
        ∃ reached after taken release, kept reached earlier ∧
          (∀ failure, reached.Closing failure → content.Closing failure) ∧
          Performs reached (live? earlier) entry.operation taken release entry.answer ∧
          Effect reached taken release after entry.events := by
  let session : Session := { content }
  have holds (operations : List Operation) :
      kept (session.after operations).content (session.history operations) ∧
        (session.after operations).content.gates.map Gate.failure? =
          content.gates.map Gate.failure? ∧
        (session.after operations).Agrees (session.history operations) := by
    refine session.invariant_history (fun reached history => kept reached.content history ∧
      reached.content.gates.map Gate.failure? = content.gates.map Gate.failure? ∧
      reached.Agrees history) ?_ ?_ operations
    · exact ⟨start, rfl, rfl, fun index => .lapsed⟩
    · rintro reached history operation ⟨known, failures, agrees⟩
      obtain ⟨taken, release, performs, effect⟩ := agrees.performs operation
      exact ⟨step known performs effect, effect.failures_eq.trans failures,
        agrees.next operation⟩
  refine ⟨⟨_, (holds operations).1⟩, fun split => ?_⟩
  obtain ⟨earlier, operation, rfl, rfl⟩ := session.exists_of_history split
  obtain ⟨known, failures, agrees⟩ := holds earlier
  obtain ⟨taken, release, performs, effect⟩ := agrees.performs operation
  refine ⟨_, _, taken, release, known, fun failure closing => ?_, performs, effect⟩
  rw [Content.Closing, ← List.mem_map, ← failures, List.mem_map]
  exact closing

end HttpAuth
