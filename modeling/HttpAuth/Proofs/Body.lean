import HttpAuth.Body

/-!
# Reading a body to its end

What is observed when a body is read: every chunk of its stream in order, and then the releases of
the contents around it.  A result, when there is one, is the concatenation of the chunks.  All of it
concerns the owner of the body.
-/

namespace HttpAuth

/-- The owner of the body that an event is about. -/
def Event.owner? : Event → Option Owner
  | .chunk owner _ => some owner
  | .close owner _ => some owner
  | _ => none

namespace Supply

/-- The chunks that are left. -/
def items : Supply → List Octets
  | .bytes data => Content.chunksOfBytes data
  | .chunks items => items
  | .stream source => source.pending

/-- The records of handing out all chunks that are left. -/
def announcements : Supply → List Event
  | .stream source => source.announcements source.pending.length
  | _ => []

end Supply

namespace Body

/-- The chunks of a body. -/
def items : Body → List Octets
  | .bytes data => Content.chunksOfBytes data
  | .chunks items => items
  | .stream items _ => items
  | .content body _ => body.items

/-- The concatenation of the chunks of a body. -/
def data (body : Body) : Octets :=
  body.items.flatten

/-- The number of chunks that a stream hands out; a body in memory hands out none. -/
def streamed : Body → Nat
  | .stream items _ => items.length
  | .content body _ => body.streamed
  | _ => 0

end Body

/-! ## Releases -/

namespace Gate

/-- The record of a release. -/
def record (gate : Gate) : Event :=
  .close gate.owner gate.layer

theorem close_events (gate : Gate) : ∀ event ∈ gate.close.2.1, event = gate.record := by
  intro event member
  simp only [close] at member
  split at member
  · simp at member
  · split at member
    · simpa [record] using member
    · simp at member

theorem closeAll_events (gates : List Gate) (reason : Option Failure) :
    ∀ event ∈ (closeAll gates reason).2.1, ∃ gate ∈ gates, event = gate.record := by
  induction gates generalizing reason with
  | nil => simp [closeAll]
  | cons gate others induction =>
      intro event member
      simp only [closeAll, List.mem_append] at member
      rcases member with first | later
      · exact ⟨gate, by simp, gate.close_events event first⟩
      · obtain ⟨found, inside, same⟩ := induction _ event later
        exact ⟨found, by simp [inside], same⟩

end Gate

namespace Content

/-- The releases that the end of an iteration may run. -/
def gates (content : Content) : List Gate :=
  content.inner ++ [content.gate]

theorem finish_events {α : Type} (content : Content) (reason : Option Failure) (value : α) :
    ∀ event ∈ (content.finish reason value).events,
      ∃ gate ∈ content.gates, event = gate.record := by
  intro event member
  simp only [finish] at member
  split at member
  · simp at member
  · simp only [List.mem_append] at member
    rcases member with early | late
    · obtain ⟨gate, inside, same⟩ := Gate.closeAll_events _ _ event early
      exact ⟨gate, by simp [gates, inside], same⟩
    · exact ⟨content.gate, by simp [gates], Gate.close_events _ event late⟩

/-- A result of ending an iteration is the one that was given. -/
theorem finish_result {α : Type} {content : Content} {reason : Option Failure} {value result : α}
    (finished : (content.finish reason value).result = .ok result) : result = value := by
  simp only [finish] at finished
  split at finished
  · exact (Except.ok.inj finished).symm
  · cases finished

/-- What is observed when a content is read: the chunks that are left, and then releases. -/
theorem read_events (content : Content) :
    ∃ releases, content.read.events = content.supply.announcements ++ releases ∧
      ∀ event ∈ releases, ∃ gate ∈ content.gates, event = gate.record := by
  cases supply : content.supply with
  | bytes data => exact ⟨[], by simp [read, supply, Supply.announcements], by simp⟩
  | chunks items =>
      refine ⟨(content.finish none items).events, ?_, content.finish_events none items⟩
      simp [read, drain, supply, Supply.announcements]
  | stream source =>
      let spent : Stream :=
        { source with
          taken := source.taken + source.pending.length, pending := [], failure := none }
      let ended := { content with supply := .stream spent }.finish source.failure source.pending
      refine ⟨ended.events, ?_, finish_events { content with supply := .stream spent } _ _⟩
      simp [read, drain, supply, Supply.announcements, ended, spent]

/-- Everything that is observed when a content is read is about a body. -/
theorem owner_of_read {content : Content} {event : Event}
    (member : event ∈ content.read.events) : event.owner?.isSome := by
  obtain ⟨releases, events_eq, recorded⟩ := content.read_events
  rw [events_eq, List.mem_append] at member
  rcases member with handed | released
  · cases supply : content.supply with
    | bytes data => simp [supply, Supply.announcements] at handed
    | chunks items => simp [supply, Supply.announcements] at handed
    | stream source =>
        rw [supply, Supply.announcements, Stream.announcements] at handed
        split at handed
        · obtain ⟨index, -, rfl⟩ := List.mem_map.mp handed
          rfl
        · cases handed
  · obtain ⟨gate, -, rfl⟩ := recorded event released
    rfl

/-- A result of reading is the concatenation of the chunks that are left. -/
theorem read_result {content : Content} {data : Octets} (read : content.read.result = .ok data) :
    data = content.supply.items.flatten := by
  cases supply : content.supply with
  | bytes bytes =>
      simp only [Content.read, supply, Except.ok.injEq] at read
      subst read
      cases bytes <;> simp [Supply.items, chunksOfBytes]
  | chunks items =>
      simp only [Content.read, drain, supply] at read
      cases ended : (content.finish none items).result with
      | error failure => simp [ended, Except.map] at read
      | ok given =>
          rw [ended] at read
          rw [← Except.ok.inj read, finish_result ended]
          rfl
  | stream source =>
      simp only [Content.read, drain, supply] at read
      revert read
      generalize ended_eq : Content.finish _ source.failure source.pending = ended
      intro read
      cases result : ended.result with
      | error failure => simp [result, Except.map] at read
      | ok given =>
          rw [result] at read
          subst ended_eq
          rw [← Except.ok.inj read, finish_result result]
          rfl

end Content

/-! ## Bodies -/

namespace Body

theorem contentAt_items (owner : Owner) (layer : Nat) (body : Body) (hook : Option Hook) :
    (contentAt owner layer body hook).supply.items = body.items := by
  induction body generalizing layer hook with
  | bytes data => rfl
  | chunks items => rfl
  | stream items failure => rfl
  | content body inside induction =>
      rw [items, ← induction (layer + 1) inside, contentAt, Content.enclosed]
      cases (contentAt owner (layer + 1) body inside).supply <;> rfl

theorem contentAt_announcements (owner : Owner) (layer : Nat) (body : Body) (hook : Option Hook) :
    (contentAt owner layer body hook).supply.announcements =
      (List.range body.streamed).map (.chunk owner) := by
  induction body generalizing layer hook with
  | bytes data => rfl
  | chunks items => rfl
  | stream items failure =>
      simp [contentAt, Supply.announcements, Stream.announcements, streamed, List.range_eq_range']
  | content body inside induction =>
      rw [streamed, ← induction (layer + 1) inside, contentAt, Content.enclosed]
      cases (contentAt owner (layer + 1) body inside).supply <;> rfl

/-- All contents of a body have its owner, and the layers of those inside another are higher. -/
theorem contentAt_gates (owner : Owner) (layer : Nat) (body : Body) (hook : Option Hook) :
    ∀ gate ∈ (contentAt owner layer body hook).gates, gate.owner = owner ∧ layer ≤ gate.layer := by
  induction body generalizing layer hook with
  | bytes data => simp [contentAt, Content.gates]
  | chunks items => simp [contentAt, Content.gates]
  | stream items failure => simp [contentAt, Content.gates]
  | content body inside induction =>
      intro gate member
      have enclosing := induction (layer + 1) inside gate
      simp only [contentAt, Content.enclosed] at member
      split at member
      · simp_all [Content.gates]
      · simp only [Content.gates, List.mem_append, List.mem_singleton] at member enclosing
        rcases member with within | outermost
        · exact ⟨(enclosing within).1, by have := (enclosing within).2; omega⟩
        · simp [outermost]

/-- The gate of a content is fresh. -/
theorem contentAt_gate (owner : Owner) (layer : Nat) (body : Body) (hook : Option Hook) :
    (contentAt owner layer body hook).gate = { owner, layer, hook } := by
  cases body with
  | bytes data => rfl
  | chunks items => rfl
  | stream items failure => rfl
  | content body inside =>
      simp only [contentAt, Content.enclosed]
      split <;> rfl

/-- A body is read as a content over it. -/
theorem toContent_eq_contentAt (owner : Owner) (body : Body) :
    ∃ inside hook, body.toContent owner = contentAt owner 0 inside hook ∧
      inside.items = body.items ∧ inside.streamed = body.streamed := by
  cases body with
  | content inside hook => exact ⟨inside, hook, rfl, rfl, rfl⟩
  | bytes data => exact ⟨.bytes data, .none, rfl, rfl, rfl⟩
  | chunks items => exact ⟨.chunks items, .none, rfl, rfl, rfl⟩
  | stream items failure => exact ⟨.stream items failure, .none, rfl, rfl, rfl⟩

/-- Reading a content hands out every chunk of its stream in order, and then runs releases. -/
theorem contentAt_read_events (owner : Owner) (layer : Nat) (body : Body) (hook : Option Hook) :
    ∃ releases, (contentAt owner layer body hook).read.events =
        (List.range body.streamed).map (.chunk owner) ++ releases ∧
      ∀ event ∈ releases, ∃ layer, event = .close owner layer := by
  obtain ⟨releases, events_eq, recorded⟩ := (contentAt owner layer body hook).read_events
  refine ⟨releases, by rw [events_eq, contentAt_announcements], ?_⟩
  intro event member
  obtain ⟨gate, inside, rfl⟩ := recorded event member
  have owned := (contentAt_gates owner layer body hook gate inside).1
  exact ⟨gate.layer, by rw [Gate.record, owned]⟩

/-- Everything observed while a content is read is about its owner. -/
theorem contentAt_read_owner (owner : Owner) (layer : Nat) (body : Body) (hook : Option Hook) :
    ∀ event ∈ (contentAt owner layer body hook).read.events, event.owner? = some owner := by
  intro event member
  obtain ⟨releases, events_eq, recorded⟩ := body.contentAt_read_events owner layer hook
  rw [events_eq, List.mem_append, List.mem_map] at member
  rcases member with ⟨index, -, rfl⟩ | released
  · rfl
  · obtain ⟨layer, rfl⟩ := recorded event released
    rfl

/-- Reading a body hands out every chunk of its stream in order, and then runs releases. -/
theorem read_events (owner : Owner) (body : Body) :
    ∃ releases, (body.toContent owner).read.events =
        (List.range body.streamed).map (.chunk owner) ++ releases ∧
      ∀ event ∈ releases, ∃ layer, event = .close owner layer := by
  obtain ⟨inside, hook, content_eq, -, streamed_eq⟩ := body.toContent_eq_contentAt owner
  rw [content_eq, ← streamed_eq]
  exact inside.contentAt_read_events owner 0 hook

/-- Everything observed while a body is read is about its owner. -/
theorem read_owner (owner : Owner) (body : Body) :
    ∀ event ∈ (body.toContent owner).read.events, event.owner? = some owner := by
  obtain ⟨inside, hook, content_eq, -, -⟩ := body.toContent_eq_contentAt owner
  rw [content_eq]
  exact inside.contentAt_read_owner owner 0 hook

/-- A result of reading a body is the concatenation of its chunks. -/
theorem read_data {owner : Owner} {body : Body} {data : Octets}
    (read : (body.toContent owner).read.result = .ok data) : data = body.data := by
  obtain ⟨inside, hook, content_eq, items_eq, -⟩ := body.toContent_eq_contentAt owner
  rw [Content.read_result read, content_eq, contentAt_items, items_eq, Body.data]

/-- Releasing a content over a body records the release, if there is one, and fails when the
release is set to fail. -/
theorem contentOver_close (owner : Owner) (body : Body) (hook : Option Hook) :
    (contentOver owner body hook).close.events =
        (if hook.isSome then [.close owner 0] else []) ∧
      (contentOver owner body hook).close.result =
        if hook = some .failing then .error (.closing owner) else .ok () := by
  have fresh : (contentOver owner body hook).gate = { owner, layer := 0, hook } :=
    contentAt_gate owner 0 body hook
  simp only [Content.close, Gate.close, Gate.failure?, fresh]
  by_cases failing : hook = some .failing <;> simp [failing]

/-! ## Bodies of responses that an HTTP client received -/

theorem contentAt_stream_owner {owner : Owner} {layer : Nat} {body : Body} {hook : Option Hook}
    {source : Stream} (supply : (contentAt owner layer body hook).supply = .stream source) :
    source.owner = owner := by
  induction body generalizing layer hook with
  | bytes data => cases supply
  | chunks items => cases supply
  | stream items failure =>
      cases supply
      rfl
  | content body inside induction =>
      simp only [contentAt, Content.enclosed] at supply
      split at supply
      · cases supply
      · exact induction supply

/-- A received body is a stream with a fresh release that does not fail; the contents inside it
have higher layers. -/
theorem received_shape (owner : Owner) (body : Body) :
    ∃ source inner, body.received owner =
        { supply := .stream source, inner, gate := { owner, layer := 0, hook := some .quiet } } ∧
      source.owner = owner ∧ ∀ gate ∈ inner, gate.owner = owner ∧ 1 ≤ gate.layer := by
  cases body with
  | bytes data => exact ⟨_, [], rfl, rfl, by simp⟩
  | chunks items => exact ⟨_, [], rfl, rfl, by simp⟩
  | stream items failure => exact ⟨_, [], rfl, rfl, by simp⟩
  | content body hook =>
      have inside := contentAt_gates owner 1 body hook
      cases supply : (contentAt owner 1 body hook).supply with
      | bytes data =>
          let quiet : Stream :=
            { owner, announced := false, pending := Content.chunksOfBytes data, failure := .none }
          exact ⟨quiet, [], by simp only [received, Content.enclosed, supply, quiet], rfl, by simp⟩
      | chunks items =>
          let quiet : Stream := { owner, announced := false, pending := items, failure := .none }
          refine ⟨quiet, _, ?_, rfl, inside⟩
          simp only [received, Content.enclosed, supply, quiet, Content.gates]
      | stream source =>
          exact ⟨source, _, by simp only [received, Content.enclosed, supply, Content.gates],
            contentAt_stream_owner supply, inside⟩

/-- Releasing a received body records its release and does not fail. -/
theorem received_close (owner : Owner) (body : Body) :
    (body.received owner).close.events = [.close owner 0] ∧
      (body.received owner).close.result = .ok () := by
  obtain ⟨source, inner, content_eq, -, -⟩ := body.received_shape owner
  rw [content_eq]
  exact ⟨rfl, rfl⟩

/-- Reading a received body releases it once, whether or not its stream fails, and everything
observed is about its owner. -/
theorem received_read (owner : Owner) (body : Body) :
    (body.received owner).read.events.count (.close owner 0) = 1 ∧
      ∀ event ∈ (body.received owner).read.events, event.owner? = some owner := by
  obtain ⟨source, inner, content_eq, source_owner, inner_gates⟩ := body.received_shape owner
  have events_eq : (body.received owner).read.events =
      source.announcements source.pending.length ++
        ((Gate.closeAll inner source.failure).2.1 ++ [.close owner 0]) := by
    rw [content_eq]
    rfl
  have chunks : ∀ event ∈ source.announcements source.pending.length,
      ∃ index, event = .chunk owner index := by
    intro event member
    simp only [Stream.announcements] at member
    split at member
    · obtain ⟨index, -, rfl⟩ := List.mem_map.mp member
      exact ⟨index, by rw [source_owner]⟩
    · cases member
  have closings : ∀ event ∈ (Gate.closeAll inner source.failure).2.1,
      ∃ layer, event = .close owner (layer + 1) := by
    intro event member
    obtain ⟨gate, inside, rfl⟩ := Gate.closeAll_events inner source.failure event member
    obtain ⟨owned, above⟩ := inner_gates gate inside
    exact ⟨gate.layer - 1, by rw [Gate.record, owned, Nat.sub_add_cancel above]⟩
  rw [events_eq]
  constructor
  · rw [List.count_append, List.count_append, List.count_eq_zero.mpr, List.count_eq_zero.mpr]
    · simp
    · intro member
      obtain ⟨layer, same⟩ := closings _ member
      cases same
    · intro member
      obtain ⟨index, same⟩ := chunks _ member
      cases same
  · intro event member
    rcases List.mem_append.mp member with taken | released
    · obtain ⟨index, rfl⟩ := chunks event taken
      rfl
    · rcases List.mem_append.mp released with early | last
      · obtain ⟨layer, rfl⟩ := closings event early
        rfl
      · rw [List.mem_singleton.mp last]
        rfl

end Body

end HttpAuth
