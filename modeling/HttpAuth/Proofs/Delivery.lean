import HttpAuth.Proofs.Closing
import HttpAuth.Proofs.Conservation

/-!
# How the body of a received response is used

Whatever is done with a body that an HTTP client received and with its iterators, its chunks are
handed out in order and once, and the response is released once: by the first operation that closes
the body or ends an iteration over it.
-/

namespace HttpAuth

/-! ## The use of a stream -/

/-- A stream of chunks was used, and so many of them were taken: each operation took the next ones,
or all that were left, and answered with them. -/
inductive Delivers (fails : Failure → Prop) (items : List Octets) : List Entry → Nat → Prop where
  /-- Nothing was done with it. -/
  | unused : Delivers fails items [] 0
  /-- An operation was performed on what was left. -/
  | used {earlier taken entry count} (delivers : Delivers fails items earlier taken)
      (draws : Draws fails (live? earlier) (items.drop taken) entry.operation entry.answer count) :
      Delivers fails items (earlier ++ [entry]) (taken + count)

theorem Delivers.mono {fails allowed : Failure → Prop} {items : List Octets}
    {history : List Entry} {taken : Nat} (delivers : Delivers fails items history taken)
    (weaker : ∀ failure, fails failure → allowed failure) :
    Delivers allowed items history taken := by
  induction delivers with
  | unused => exact .unused
  | used _ draws induction => exact induction.used (draws.mono weaker)

/-- Chunks of a content over a stream are handed out in order and once. -/
theorem Content.delivers_history {content : Content} {start : Stream}
    (supply : content.supply = .stream start) (operations : List Operation) :
    ∃ taken ≤ start.pending.length,
      Delivers (fun failure => content.Closing failure ∨ start.failure = some failure)
        start.pending (({ content } : Session).history operations) taken := by
  -- The releases of the contents may be run on the way, but they stay set to fail or not to fail.
  let kept (reached : Content) (history : List Entry) : Prop :=
    reached.gates.map Gate.failure? = content.gates.map Gate.failure? ∧
      ∃ taken, (Supply.stream start).Takes taken reached.supply ∧
        Delivers (fun failure => content.Closing failure ∨ start.failure = some failure)
          start.pending history taken
  have started : kept content [] := by
    refine ⟨rfl, 0, ?_, .unused⟩
    rw [supply]
    exact .nothing _
  have step : ∀ {reached after history entry count release}, kept reached history →
      Performs reached (live? history) entry.operation count release entry.answer →
      Effect reached count release after entry.events → kept after (history ++ [entry]) := by
    rintro reached after history entry count release ⟨failures, taken, takes, delivers⟩ performs
      effect
    refine ⟨effect.failures_eq.trans failures, taken + count, takes.trans effect.supply,
      delivers.used ?_⟩
    have closing {failure : Failure} (fails : reached.Closing failure) :
        content.Closing failure := by
      rw [Content.Closing, ← List.mem_map] at fails ⊢
      rwa [← failures]
    generalize left : reached.supply = given at takes
    cases takes with
    | nothing => exact (performs.draws left).mono fun failure fails => fails.imp_left closing
    | chunks _ _ _ _ pending failure_eq =>
        have draws := performs.draws left
        rw [pending] at draws
        refine draws.mono fun failure fails => fails.imp closing fun failed => ?_
        rcases failure_eq with same | spent
        · rwa [← same]
        · rw [spent] at failed
          cases failed
  obtain ⟨⟨reached, -, taken, takes, delivers⟩, -⟩ :=
    content.invariant_history kept started step operations
  exact ⟨taken, takes.items.1, delivers⟩

/-! ## The use of a content -/

/-- A content was closed, or an iteration over it that was started has ended, has failed or was
closed early. -/
def Disposed (history : List Entry) : Prop :=
  .close ∈ history.map Entry.operation ∨ IterationEnded history

/-! ## Failures of contents -/

namespace Content

variable {content : Content} {gate : Gate} {reason : Failure}

theorem closing_of_enclosed (closing : (content.enclosed gate).Closing reason) :
    content.Closing reason ∨ gate.failure? = some reason := by
  obtain ⟨found, member, fails⟩ := closing
  simp only [enclosed] at member
  split at member
  · obtain rfl := List.mem_singleton.mp member
    exact .inr fails
  · rcases List.mem_append.mp member with within | own
    · exact .inl ⟨found, within, fails⟩
    · obtain rfl := List.mem_singleton.mp own
      exact .inr fails

theorem failure?_of_enclosed (failed : (content.enclosed gate).supply.failure? = some reason) :
    content.supply.failure? = some reason := by
  simp only [enclosed] at failed
  split at failed
  · cases failed
  · exact failed

end Content

namespace Body

/-! ## Received bodies -/

/-- The failures that using a body can end with. -/
def Fails (owner : Owner) : Body → Failure → Prop
  | .bytes _, _ => False
  | .chunks _, _ => False
  | .stream _ failure, reason => failure = some reason
  | .content body hook, reason =>
      (hook = some .failing ∧ reason = .closing owner) ∨ body.Fails owner reason

/-- A received body was used: its chunks came in order and once, and its release was run by the
operation that disposed of it, and by no other. -/
structure Consumed (owner : Owner) (body : Body) (history : List Entry) : Prop where
  /-- The chunks. -/
  delivers : ∃ taken ≤ body.items.length, Delivers (body.Fails owner) body.items history taken
  /-- The release is run at most once. -/
  once : (history.flatMap Entry.events).count (.close owner 0) ≤ 1
  /-- When the release is run. -/
  released : ∀ earlier entry later, history = earlier ++ entry :: later →
    (.close owner 0 ∈ entry.events ↔ Disposed (earlier ++ [entry]) ∧ ¬ Disposed earlier)

section Received

variable (owner : Owner) (body : Body)

theorem contentAt_fails (layer : Nat) (hook : Option Hook) {reason : Failure}
    (fails : (contentAt owner layer body hook).Closing reason ∨
      (contentAt owner layer body hook).supply.failure? = some reason) :
    (Body.content body hook).Fails owner reason := by
  induction body generalizing layer hook with
  | bytes | chunks =>
      rcases fails with ⟨gate, member, fails⟩ | failed
      · obtain rfl := List.mem_singleton.mp member
        exact .inl (Gate.failure?_eq fails)
      · cases failed
  | stream items failure =>
      rcases fails with ⟨gate, member, fails⟩ | failed
      · obtain rfl := List.mem_singleton.mp member
        exact .inl (Gate.failure?_eq fails)
      · exact .inr failed
  | content body inside induction =>
      rcases fails with closing | failed
      · rcases Content.closing_of_enclosed closing with within | own
        · exact .inr (induction (layer + 1) inside (.inl within))
        · exact .inl (Gate.failure?_eq own)
      · exact .inr (induction (layer + 1) inside (.inr (Content.failure?_of_enclosed failed)))

/-- A body that cannot be read ends with one of its failures. -/
theorem read_fails {reason : Failure}
    (failed : (body.toContent owner).read.result = .error reason) : body.Fails owner reason := by
  have ends : (body.toContent owner).EndsWith (some reason) := by
    obtain ⟨taken, release, performs, -⟩ := (body.toContent owner).read_performs fun _ => .none
    rw [failed] at performs
    generalize answer_eq : (Except.error reason).map Answer.octets = answer at performs
    cases performs with
    | readBytes supply => cases answer_eq
    | @read last once ends =>
        cases last with
        | none => cases answer_eq
        | some failure =>
            cases answer_eq
            exact ends
  have known := ends reason rfl
  cases body with
  | bytes | chunks | stream =>
      exact (contentAt_fails owner _ 0 .none known).resolve_left (by rintro ⟨⟨⟩, -⟩)
  | content inside hook => exact contentAt_fails owner inside 0 hook known

/-- A received body is a stream of the chunks of the body, with the releases of a content over
it. -/
theorem received_eq : ∃ source,
    body.received owner =
        { supply := .stream source
          inner := (contentOver owner body (some .quiet)).inner
          gate := (contentOver owner body (some .quiet)).gate } ∧
      source.pending = body.items ∧
      ∀ reason, source.failure = some reason → body.Fails owner reason := by
  cases body with
  | bytes | chunks => exact ⟨_, rfl, rfl, nofun⟩
  | stream items failure => exact ⟨_, rfl, rfl, fun reason failed => failed⟩
  | content body hook =>
      have items_eq := contentAt_items owner 1 body hook
      have fails {reason} (failed : (contentAt owner 1 body hook).supply.failure? = some reason) :=
        contentAt_fails owner body 1 hook (.inr failed)
      simp only [received, contentOver, contentAt, Content.enclosed]
      cases supply : (contentAt owner 1 body hook).supply with
      | bytes data =>
          rw [supply] at items_eq
          exact ⟨_, rfl, items_eq, nofun⟩
      | chunks items =>
          rw [supply] at items_eq
          exact ⟨_, rfl, items_eq, nofun⟩
      | stream source =>
          rw [supply] at items_eq fails
          exact ⟨source, rfl, items_eq, fun reason failed => fails failed⟩

theorem received_fails {reason : Failure} (closing : (body.received owner).Closing reason) :
    body.Fails owner reason := by
  obtain ⟨source, content_eq, -, -⟩ := body.received_eq owner
  rw [content_eq] at closing
  have enclosing : (Body.content body (some .quiet)).Fails owner reason :=
    contentAt_fails owner body 0 (some .quiet) (.inl closing)
  refine enclosing.resolve_left ?_
  rintro ⟨⟨⟩, -⟩

/-- The release of a received body is run once if the body is disposed of, and not before. -/
theorem received_released (operations : List Operation) :
    let history := ({ content := body.received owner } : Session).history operations
    let events := history.flatMap Entry.events
    events.count (.close owner 0) ≤ 1 ∧ (.close owner 0 ∈ events ↔ Disposed history) := by
  let content := body.received owner
  obtain ⟨source, content_eq, -, -⟩ := body.received_eq owner
  have inner_eq : content.inner = (contentOver owner body (some .quiet)).inner := by
    simp only [content, content_eq]
  have gate_eq : content.gate = (contentOver owner body (some .quiet)).gate := by
    simp only [content, content_eq]
  have fresh : content.gate = { owner, layer := 0, hook := some .quiet } :=
    gate_eq.trans (contentAt_gate owner 0 body (some .quiet))
  have record_eq : content.gate.record = .close owner 0 := by
    rw [fresh]
    rfl
  have once : content.replayable = false := by simp only [content, content_eq, Content.replayable]
  have outermost : content.gate.record ∉ content.inner.map Gate.record := by
    rw [gate_eq, inner_eq]
    exact contentAt_outermost owner 0 body (some .quiet)
  have distinct : content.due.Nodup := by
    rw [Content.due_eq, gate_eq, inner_eq, ← Content.due_eq]
    exact contentAt_due_nodup owner 0 body (some .quiet)
  have start : Accounts content content [] := by
    refine ⟨.refl _, rfl, rfl, rfl, ?_⟩
    simp [fresh, not_iterationEnded_nil]
  obtain ⟨⟨reached, accounts⟩, -⟩ :=
    content.invariant_history (Accounts content) start Accounts.step operations
  refine ⟨accounts.count_le_one distinct rfl, ?_⟩
  rw [← record_eq,
    accounts.released_iff distinct outermost (by rw [fresh]) (by rw [fresh]; rfl),
    accounts.closed_iff, Disposed, and_iff_right once]

/-- However a received body and its iterators are used, its chunks come in order and once, and the
release of the response is run when the body is disposed of. -/
theorem received_consumed (operations : List Operation) :
    body.Consumed owner (({ content := body.received owner } : Session).history operations) := by
  let session : Session := { content := body.received owner }
  constructor
  case delivers =>
    obtain ⟨source, content_eq, pending, failing⟩ := body.received_eq owner
    have supply : (body.received owner).supply = .stream source := by rw [content_eq]
    obtain ⟨taken, enough, delivers⟩ := Content.delivers_history supply operations
    rw [pending] at enough delivers
    refine ⟨taken, enough, delivers.mono fun failure fails => ?_⟩
    rcases fails with closing | failed
    · exact body.received_fails owner closing
    · exact failing failure failed
  case once => exact (body.received_released owner operations).1
  case released =>
    intro earlier entry later split
    obtain ⟨before, operation, rfl, rfl⟩ := session.exists_of_history split
    -- What is released up to the entry and before it is known, and nothing is released twice.
    obtain ⟨few, disposed⟩ := body.received_released owner (before ++ [operation])
    have disposed_before := (body.received_released owner before).2
    rw [← session.history_concat, ← disposed, ← disposed_before]
    rw [Session.history_concat, List.flatMap_append, List.flatMap_singleton] at few ⊢
    rw [List.count_append] at few
    rw [List.mem_append]
    have apart (early : Event.close owner 0 ∈ (session.history before).flatMap Entry.events) :
        Event.close owner 0 ∉ ((session.after before).entry operation).events := by
      intro late
      have some_early := List.count_pos_iff.mpr early
      have some_late := List.count_pos_iff.mpr late
      exact absurd few (Nat.not_le.mpr (Nat.add_le_add some_early some_late))
    exact ⟨fun late => ⟨.inr late, fun early => apart early late⟩,
      fun ⟨either, unreleased⟩ => either.resolve_left unreleased⟩

end Received

end Body
end HttpAuth
