import HttpAuth.Proofs.Effect

/-!
# Which chunks operations hand out

Chunks of a stream are handed out in order and once, whatever operations take them: what is read is
what is left, and what is closed neither loses a chunk nor brings one back.  Chunks in memory are
handed out from the first one by every iteration.
-/

namespace HttpAuth

/-! ## What is taken -/

/-- The event is the taking of a chunk. -/
def Event.isChunk : Event → Bool
  | .chunk _ _ => true
  | _ => false

/-- The takings of chunks that are observed. -/
def takings (events : List Event) : List Event :=
  events.filter Event.isChunk

/-- The number of chunks that were taken. -/
def takenBy (history : List Entry) : Nat :=
  (takings (history.flatMap Entry.events)).length

theorem takings_append (events others : List Event) :
    takings (events ++ others) = takings events ++ takings others :=
  List.filter_append ..

theorem takings_concat (history : List Entry) (entry : Entry) :
    takings ((history ++ [entry]).flatMap Entry.events) =
      takings (history.flatMap Entry.events) ++ takings entry.events := by
  rw [List.flatMap_append, List.flatMap_singleton, takings_append]

theorem takings_announce (supply : Supply) (count : Nat) :
    takings (supply.announce count) = supply.announce count := by
  cases supply with
  | bytes | chunks => rfl
  | stream source =>
      simp only [Supply.announce, Stream.announcements]
      split
      · refine List.filter_eq_self.mpr fun event member => ?_
        obtain ⟨index, -, rfl⟩ := List.mem_map.mp member
        rfl
      · rfl

/-- A release takes no chunk. -/
theorem takings_releases (content : Content) (release : Release) :
    takings (content.releases release) = [] := by
  have of_gate (gate : Gate) : takings gate.due = [] := by
    simp only [Gate.due]
    split
    · rfl
    · split <;> rfl
  have of_gates (gates : List Gate) : takings (gates.flatMap Gate.due) = [] := by
    induction gates with
    | nil => rfl
    | cons gate others induction =>
        rw [List.flatMap_cons, takings_append, of_gate, induction, List.nil_append]
  cases release with
  | nothing => rfl
  | own => exact of_gate content.gate
  | everything => exact of_gates content.gates

theorem Effect.takings_eq {before after : Content} {taken : Nat} {release : Release}
    {events : List Event} (effect : Effect before taken release after events) :
    takings events = before.supply.announce taken := by
  rw [effect.events_eq, takings_append, takings_announce, takings_releases, List.append_nil]

/-! ## Streams -/

/-- The answer of an operation on a stream of which these chunks are left, and how many of them it
takes. -/
inductive Draws (fails : Failure → Prop) (live? : Nat → Option (List Octets))
    (left : List Octets) : Operation → Except Failure Answer → Nat → Prop where
  /-- Reading takes all that is left, also when it fails. -/
  | read {reason} (allowed : ∀ failure, reason = some failure → fails failure) :
      Draws fails live? left .read (ending (.octets left.flatten) reason) left.length
  /-- Iterating to the end takes all that is left, also when it fails. -/
  | drain {reason} (allowed : ∀ failure, reason = some failure → fails failure) :
      Draws fails live? left .drain (ending (.chunks left) reason) left.length
  /-- A live iterator hands out the next chunk. -/
  | next {index chunk rest} (live : (live? index).isSome) (left_eq : left = chunk :: rest) :
      Draws fails live? left (.next index) (.ok (.octets chunk)) 1
  /-- A live iterator ends when nothing is left. -/
  | ended {index reason} (live : (live? index).isSome) (left_eq : left = [])
      (allowed : ∀ failure, reason = some failure → fails failure) :
      Draws fails live? left (.next index) (ending .finished reason) 0
  /-- An iterator that is not live hands out nothing. -/
  | lapsed {index} (dead : live? index = none) :
      Draws fails live? left (.next index) (.ok .finished) 0
  /-- The other operations take nothing. -/
  | other {operation answer}
      (other : operation = .close ∨ operation = .replayable ∨ operation = .iterate ∨
        ∃ index, operation = .abandon index) :
      Draws fails live? left operation answer 0

theorem Draws.mono {fails allowed : Failure → Prop} {live? : Nat → Option (List Octets)}
    {left : List Octets} {operation : Operation} {answer : Except Failure Answer} {taken : Nat}
    (draws : Draws fails live? left operation answer taken)
    (weaker : ∀ failure, fails failure → allowed failure) :
    Draws allowed live? left operation answer taken := by
  cases draws with
  | read known => exact .read fun failure failed => weaker failure (known failure failed)
  | drain known => exact .drain fun failure failed => weaker failure (known failure failed)
  | next live left_eq => exact .next live left_eq
  | ended live left_eq known =>
      exact .ended live left_eq fun failure failed => weaker failure (known failure failed)
  | lapsed dead => exact .lapsed dead
  | other other => exact .other other

theorem Performs.draws {content : Content} {source : Stream}
    {live? : Nat → Option (List Octets)} {operation : Operation} {taken : Nat} {release : Release}
    {answer : Except Failure Answer} (supply : content.supply = .stream source)
    (performs : Performs content live? operation taken release answer) :
    Draws (fun failure => content.Closing failure ∨ source.failure = some failure) live?
      source.pending operation answer taken := by
  have items : content.supply.items = source.pending := by rw [supply]; rfl
  have left : content.supply.left = source.pending.length := by rw [supply]; rfl
  have streamed : content.supply.memory? = none := by rw [supply]; rfl
  have allowed {reason : Option Failure} (ends : content.EndsWith reason) :
      ∀ failure, reason = some failure →
        content.Closing failure ∨ source.failure = some failure := by
    intro failure failed
    have known := ends failure failed
    rwa [supply] at known
  cases performs with
  | readBytes bytes => cases supply.symm.trans bytes
  | read once ends =>
      rw [items, left]
      exact .read (allowed ends)
  | drain ends quiet =>
      rw [items, left]
      exact .drain (allowed ends)
  | lapsed dead => exact .lapsed dead
  | item live memory => cases streamed.symm.trans memory
  | chunk live _ items_eq =>
      exact .next (by rw [live]; rfl) (items.symm.trans items_eq)
  | ended live exhausted ends quiet =>
      rcases exhausted with memory | ⟨-, nothing⟩
      · cases streamed.symm.trans memory
      · exact .ended (by rw [live]; rfl) (items.symm.trans nothing) (allowed ends)
  | close closing => exact .other (.inl rfl)
  | replayable => exact .other (.inr (.inl rfl))
  | iterate => exact .other (.inr (.inr (.inl rfl)))
  | dropped unstarted => exact .other (.inr (.inr (.inr ⟨_, rfl⟩)))
  | abandoned live started closing => exact .other (.inr (.inr (.inr ⟨_, rfl⟩)))

/-- Chunks of a stream are taken in order and once. -/
structure Conserves (start : Stream) (reached : Content) (history : List Entry) : Prop where
  /-- What is left of the stream. -/
  takes : (Supply.stream start).Takes (takenBy history) reached.supply
  /-- The chunks that were taken. -/
  takings_eq : takings (history.flatMap Entry.events) = start.announcements (takenBy history)

theorem Conserves.step {start : Stream} (announced : start.announced = true)
    {reached after : Content} {history : List Entry} {entry : Entry} {taken : Nat}
    {release : Release} (conserves : Conserves start reached history)
    (_ : Performs reached (live? history) entry.operation taken release entry.answer)
    (effect : Effect reached taken release after entry.events) :
    Conserves start after (history ++ [entry]) := by
  obtain ⟨takes, takings_eq⟩ := conserves
  have together : takings ((history ++ [entry]).flatMap Entry.events) =
      start.announcements (takenBy history + taken) := by
    rw [takings_concat, takings_eq, effect.takings_eq]
    exact (takes.announce_add taken).symm
  have count : takenBy (history ++ [entry]) = takenBy history + taken := by
    rw [takenBy, together, Stream.announcements, if_pos announced, List.length_map,
      List.length_range']
  rw [← count] at together
  exact ⟨by rw [count]; exact takes.trans effect.supply, together⟩

/-- The stream of which chunks were taken. -/
theorem Conserves.exists_stream {start : Stream} {reached : Content} {history : List Entry}
    (conserves : Conserves start reached history) :
    ∃ source, reached.supply = .stream source ∧
      source.pending = start.pending.drop (takenBy history) ∧
      takenBy history ≤ start.pending.length ∧
      (∀ failure, source.failure = some failure → start.failure = some failure) ∧
      ∀ count, source.announcements count =
        if start.announced then
          (List.range' (start.taken + takenBy history) count).map (.chunk start.owner)
        else [] := by
  obtain ⟨takes, -⟩ := conserves
  generalize reached.supply = supply, takenBy history = taken at takes
  cases takes with
  | nothing => exact ⟨start, rfl, rfl, Nat.zero_le _, fun _ failed => failed, fun count => rfl⟩
  | @chunks _ source _ enough owner announced taken_eq pending ends =>
      refine ⟨source, rfl, pending, enough, fun failure failed => ?_, fun count => ?_⟩
      · rcases ends with kept | spent
        · rwa [← kept]
        · rw [spent] at failed
          cases failed
      · rw [Stream.announcements, owner, announced, taken_eq]

/-! ## Chunks in memory -/

theorem Content.flatten_chunksOfBytes (data : Octets) : (chunksOfBytes data).flatten = data := by
  cases data with
  | nil => rfl
  | cons octet others => exact List.append_nil _

/-- The answer of an operation on chunks in memory, from which every iteration starts anew. -/
inductive Replays (fails : Failure → Prop) (live? : Nat → Option (List Octets))
    (items : List Octets) : Operation → Except Failure Answer → Prop where
  /-- Reading hands out everything. -/
  | read {reason} (allowed : ∀ failure, reason = some failure → fails failure) :
      Replays fails live? items .read (ending (.octets items.flatten) reason)
  /-- Iterating to the end hands out everything. -/
  | drain {reason} (allowed : ∀ failure, reason = some failure → fails failure) :
      Replays fails live? items .drain (ending (.chunks items) reason)
  /-- A live iterator hands out the chunk behind those that it has handed out. -/
  | next {index handed chunk rest} (live : live? index = some handed)
      (items_eq : items = handed ++ chunk :: rest) :
      Replays fails live? items (.next index) (.ok (.octets chunk))
  /-- A live iterator ends when it has handed out everything. -/
  | ended {index reason} (live : live? index = some items)
      (allowed : ∀ failure, reason = some failure → fails failure) :
      Replays fails live? items (.next index) (ending .finished reason)
  /-- An iterator that is not live hands out nothing. -/
  | lapsed {index} (dead : live? index = none) :
      Replays fails live? items (.next index) (.ok .finished)
  /-- The other operations hand out nothing. -/
  | other {operation answer}
      (other : operation = .close ∨ operation = .replayable ∨ operation = .iterate ∨
        ∃ index, operation = .abandon index) :
      Replays fails live? items operation answer

theorem Replays.mono {fails allowed : Failure → Prop} {live? : Nat → Option (List Octets)}
    {items : List Octets} {operation : Operation} {answer : Except Failure Answer}
    (replays : Replays fails live? items operation answer)
    (weaker : ∀ failure, fails failure → allowed failure) :
    Replays allowed live? items operation answer := by
  cases replays with
  | read known => exact .read fun failure failed => weaker failure (known failure failed)
  | drain known => exact .drain fun failure failed => weaker failure (known failure failed)
  | next live items_eq => exact .next live items_eq
  | ended live known =>
      exact .ended live fun failure failed => weaker failure (known failure failed)
  | lapsed dead => exact .lapsed dead
  | other other => exact .other other

theorem Performs.replays {content : Content} {items : List Octets}
    {live? : Nat → Option (List Octets)} {operation : Operation} {taken : Nat} {release : Release}
    {answer : Except Failure Answer} (memory : content.supply.memory? = some items)
    (performs : Performs content live? operation taken release answer) :
    Replays (fun failure => content.replayable = false ∧ content.Closing failure) live? items
      operation answer := by
  have items_eq : content.supply.items = items := by
    cases supply : content.supply <;> rw [supply] at memory <;> cases memory <;> rfl
  have allowed {reason : Option Failure} (ends : content.EndsWith reason)
      (quiet : content.replayable = true → reason = none) :
      ∀ failure, reason = some failure → content.replayable = false ∧ content.Closing failure := by
    intro failure failed
    refine ⟨Bool.of_not_eq_true fun replayable => ?_, (ends failure failed).resolve_right ?_⟩
    · rw [quiet replayable] at failed
      cases failed
    · cases supply : content.supply with
      | bytes | chunks => exact (Option.some_ne_none failure).symm
      | stream source =>
          rw [supply] at memory
          cases memory
  cases performs with
  | @readBytes data supply =>
      rw [supply] at memory
      obtain rfl := Option.some.inj memory
      have read : Replays (fun failure => content.replayable = false ∧ content.Closing failure)
          live? (Content.chunksOfBytes data) .read
          (ending (.octets (Content.chunksOfBytes data).flatten) none) :=
        .read fun failure failed => by cases failed
      rwa [Content.flatten_chunksOfBytes] at read
  | read once ends =>
      rw [items_eq]
      exact .read (allowed ends (by simp [once]))
  | drain ends quiet =>
      rw [items_eq]
      exact .drain (allowed ends quiet)
  | lapsed dead => exact .lapsed dead
  | item live known => exact .next live (Option.some.inj (memory.symm.trans known))
  | chunk live streamed items_eq => cases memory.symm.trans streamed
  | ended live exhausted ends quiet =>
      rcases exhausted with known | ⟨streamed, -⟩
      · rw [Option.some.inj (known.symm.trans memory)] at live
        exact .ended live (allowed ends quiet)
      · cases memory.symm.trans streamed
  | close closing => exact .other (.inl rfl)
  | replayable => exact .other (.inr (.inl rfl))
  | iterate => exact .other (.inr (.inr (.inl rfl)))
  | dropped unstarted => exact .other (.inr (.inr (.inr ⟨_, rfl⟩)))
  | abandoned live started closing => exact .other (.inr (.inr (.inr ⟨_, rfl⟩)))

namespace Body

/-- A body under contents with these releases, the outermost first. -/
def within (body : Body) (hooks : List (Option Hook)) : Body :=
  hooks.foldr (fun hook inside => .content inside hook) body

/-- Contents around a body that is not bytes hand out its chunks. -/
theorem contentAt_within_supply (owner : Owner) (layer : Nat) {body : Body}
    (hooks : List (Option Hook)) (hook : Option Hook) {supply : Supply}
    (plain : ∀ layer hook, (contentAt owner layer body hook).supply = supply)
    (unbytes : ∀ data, supply ≠ .bytes data) :
    (contentAt owner layer (body.within hooks) hook).supply = supply := by
  induction hooks generalizing layer hook with
  | nil => exact plain layer hook
  | cons inside hooks induction =>
      have kept := induction (layer + 1) inside
      change ((contentAt owner (layer + 1) (body.within hooks) inside).enclosed _).supply = supply
      simp only [Content.enclosed]
      split
      · rename_i data bytes
        exact absurd (kept.symm.trans bytes) (unbytes data)
      · exact kept

end Body

namespace Content

/-- What operations on a content over chunks in memory answer. -/
theorem replays_history {content : Content} {items : List Octets}
    (memory : content.supply.memory? = some items) (operations : List Operation)
    {earlier later : List Entry} {entry : Entry}
    (split : ({ content } : Session).history operations = earlier ++ entry :: later) :
    Replays (fun failure => content.replayable = false ∧ content.Closing failure) (live? earlier)
      items entry.operation entry.answer := by
  have kept := content.invariant_history (fun reached _ => reached.supply = content.supply) rfl ?_
    operations
  · obtain ⟨reached, -, taken, release, supply_eq, closing, performs, -⟩ := kept.2 split
    have replayable_eq : reached.replayable = content.replayable := by
      rw [replayable, supply_eq]
      rfl
    have replays := performs.replays (by rw [supply_eq]; exact memory)
    rw [replayable_eq] at replays
    exact replays.mono fun failure fails => ⟨fails.1, closing failure fails.2⟩
  · intro reached after history entry taken release supply_eq _ effect
    have takes := effect.supply
    rw [supply_eq] at takes
    generalize content.supply = supply, after.supply = left at takes memory
    cases takes with
    | nothing => rfl
    | chunks => cases memory

end Content

namespace Body

/-- Contents around a body have the releases that they are given. -/
theorem contentAt_within_hooks (owner : Owner) (layer : Nat) {body : Body}
    (hooks : List (Option Hook)) (hook : Option Hook)
    (plain : ∀ layer hook, (contentAt owner layer body hook).inner = []) :
    ∀ gate ∈ (contentAt owner layer (body.within hooks) hook).gates, gate.hook ∈ hook :: hooks := by
  induction hooks generalizing layer hook with
  | nil =>
      intro gate member
      rw [Content.gates, within, List.foldr_nil, plain, contentAt_gate, List.nil_append,
        List.mem_singleton] at member
      rw [member]
      exact List.mem_cons_self
  | cons inside hooks induction =>
      intro gate member
      have known := induction (layer + 1) inside
      change gate ∈ ((contentAt owner (layer + 1) (body.within hooks) inside).enclosed
        { owner, layer, hook }).gates at member
      simp only [Content.enclosed] at member
      split at member
      · rw [Content.gates, List.nil_append, List.mem_singleton] at member
        rw [member]
        exact List.mem_cons_self
      · rcases List.mem_append.mp member with within | outermost
        · exact List.mem_cons_of_mem _ (known gate within)
        · rw [List.mem_singleton.mp outermost]
          exact List.mem_cons_self

/-- A release fails only if one of the contents around a body is set to fail. -/
theorem closing_within {owner : Owner} {body : Body} {hooks : List (Option Hook)}
    {hook : Option Hook} {failure : Failure}
    (plain : ∀ layer hook, (contentAt owner layer body hook).inner = [])
    (closing : (contentOver owner (body.within hooks) hook).Closing failure) :
    failure = .closing owner ∧ some .failing ∈ hook :: hooks := by
  obtain ⟨gate, member, fails⟩ := closing
  have hooked := contentAt_within_hooks owner 0 hooks hook plain gate member
  obtain ⟨failing, rfl⟩ := Gate.failure?_eq fails
  rw [(contentAt_gates owner 0 _ hook gate member).1, ← failing]
  exact ⟨rfl, hooked⟩

section Used

variable (owner : Owner) (hooks : List (Option Hook)) (hook : Option Hook) (items : List Octets)
variable (operations : List Operation)

theorem stream_conserved (failure : Option Failure) :
    let body := (Body.stream items failure).within hooks
    let history := ({ content := contentOver owner body hook } : Session).history operations
    (∃ count ≤ items.length,
        takings (history.flatMap Entry.events) = (List.range count).map (.chunk owner)) ∧
      ∀ earlier entry later, history = earlier ++ entry :: later →
        ∃ count, takings entry.events =
            (List.range' (takenBy earlier) count).map (.chunk owner) ∧
          Draws (fun reason => reason = .closing owner ∧ some .failing ∈ hook :: hooks ∨
              failure = some reason)
            (live? earlier) (items.drop (takenBy earlier)) entry.operation entry.answer
            count := by
  intro body history
  let start : Stream := { owner, announced := true, pending := items, failure }
  let content := contentOver owner body hook
  have supply : content.supply = .stream start :=
    contentAt_within_supply owner 0 hooks hook (fun _ _ => rfl) nofun
  have started : Conserves start content [] := ⟨by rw [supply]; exact .nothing _, rfl⟩
  obtain ⟨⟨reached, conserves⟩, entries⟩ :=
    content.invariant_history (Conserves start) started (Conserves.step rfl) operations
  constructor
  · obtain ⟨source, -, -, enough, -, -⟩ := conserves.exists_stream
    refine ⟨_, enough, conserves.takings_eq.trans ?_⟩
    rw [List.range_eq_range']
    rfl
  · intro earlier entry later split
    obtain ⟨reached, after, taken, release, conserves, closing, performs, effect⟩ := entries split
    obtain ⟨source, reached_supply, pending, -, ends, announcements_eq⟩ :=
      conserves.exists_stream
    have draws := performs.draws reached_supply
    rw [pending] at draws
    refine ⟨taken, ?_, draws.mono fun reason fails => ?_⟩
    · rw [effect.takings_eq, reached_supply]
      refine (announcements_eq taken).trans ?_
      rw [if_pos rfl, Nat.zero_add]
    · exact fails.imp (fun fails => closing_within (fun _ _ => rfl) (closing reason fails))
        (ends reason)

theorem chunks_replayed {earlier later : List Entry} {entry : Entry}
    (split : ({ content := contentOver owner ((Body.chunks items).within hooks) hook } :
      Session).history operations = earlier ++ entry :: later) :
    Replays (fun reason => reason = .closing owner ∧ some .failing ∈ hook :: hooks) (live? earlier)
      items entry.operation entry.answer := by
  let content := contentOver owner ((Body.chunks items).within hooks) hook
  have supply : content.supply = .chunks items :=
    contentAt_within_supply owner 0 hooks hook (fun _ _ => rfl) nofun
  have memory : content.supply.memory? = some items := by
    rw [supply]
    rfl
  refine (Content.replays_history memory operations split).mono fun failure fails => ?_
  exact closing_within (fun _ _ => rfl) fails.2

theorem bytes_replayed (data : Octets) {earlier later : List Entry} {entry : Entry}
    (split : ({ content := contentOver owner (.bytes data) hook } : Session).history operations =
      earlier ++ entry :: later) :
    Replays (fun _ => False) (live? earlier) (Content.chunksOfBytes data) entry.operation
      entry.answer := by
  let content := contentOver owner (.bytes data) hook
  have memory : content.supply.memory? = some (Content.chunksOfBytes data) := rfl
  refine (Content.replays_history memory operations split).mono fun failure fails => ?_
  cases fails.1

end Used

/-- Whatever is done with a content over a stream and with its iterators, its chunks are taken in
order and once; the history of the operations holds what a run answers.  Each operation takes the
next chunks, or all that are left, and its answer holds the chunks that it takes, unless the stream
or a release is set to fail; closing takes none.  Chunks in memory are handed out from the first one
by each iteration, which fails only if a release is set to fail.  Reading bytes and iterating over
them agree, and neither fails. -/
theorem contentOver_conserves_chunks (owner : Owner) (hooks : List (Option Hook))
    (hook : Option Hook) (items : List Octets) (failure : Option Failure) (data : Octets)
    (operations : List Operation) :
    let history (body : Body) : List Entry :=
      ({ content := contentOver owner body hook } : Session).history operations
    (∀ body, ({ content := contentOver owner body hook } : Session).run operations =
      (history body).map fun entry => (entry.events, entry.answer)) ∧
    ((∃ count ≤ items.length,
        takings ((history ((Body.stream items failure).within hooks)).flatMap Entry.events) =
          (List.range count).map (.chunk owner)) ∧
      ∀ earlier entry later,
        history ((Body.stream items failure).within hooks) = earlier ++ entry :: later →
        ∃ count, takings entry.events =
            (List.range' (takenBy earlier) count).map (.chunk owner) ∧
          Draws (fun reason => reason = .closing owner ∧ some .failing ∈ hook :: hooks ∨
              failure = some reason)
            (live? earlier) (items.drop (takenBy earlier)) entry.operation entry.answer count) ∧
      (∀ earlier entry later,
        history ((Body.chunks items).within hooks) = earlier ++ entry :: later →
        Replays (fun reason => reason = .closing owner ∧ some .failing ∈ hook :: hooks)
          (live? earlier) items entry.operation entry.answer) ∧
      (∀ earlier entry later, history (.bytes data) = earlier ++ entry :: later →
        Replays (fun _ => False) (live? earlier) (Content.chunksOfBytes data) entry.operation
          entry.answer) ∧
      (Content.chunksOfBytes data).flatten = data := by
  intro history
  exact ⟨fun body => Session.run_eq_history _ operations,
    stream_conserved owner hooks hook items operations failure,
    fun _ _ _ => chunks_replayed owner hooks hook items operations,
    fun _ _ _ => bytes_replayed owner hook operations data, Content.flatten_chunksOfBytes data⟩

end Body

end HttpAuth
