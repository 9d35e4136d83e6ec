import HttpAuth.Proofs.Contacts

/-!
# Runs side by side

How two runs look to an observer who sees some of the events, and nothing of bodies.  The observer
confuses the runs when they show the same and end alike: both with a result, or both with the same
failure.  Runs that are put together of confused parts are confused, and a run is confused with
itself, as it does not depend on what was observed before it.
-/

namespace HttpAuth

/-- Someone who sees some of the events, and nothing of bodies. -/
structure Observer where
  /-- The event is seen. -/
  sees : Event → Bool
  /-- What is done to a body is not seen. -/
  sees_no_body : ∀ event, event.owner?.isSome → sees event = false

/-- The network without what was observed. -/
def Network.untraced (network : Network) : Network :=
  { network with trace := [] }

/-- Two networks differ from two others in what was observed since. -/
def Network.Ahead (before other_before after other_after : Network) : Prop :=
  ∃ events others, after = before.observe events ∧ other_after = other_before.observe others

namespace Network.Ahead

variable {before other_before after other_after : Network}

theorem refl : Ahead before other_before before other_before :=
  ⟨[], [], by simp, by simp⟩

theorem trans {last other_last : Network} (first : Ahead before other_before after other_after)
    (second : Ahead after other_after last other_last) :
    Ahead before other_before last other_last := by
  obtain ⟨events, others, rfl, rfl⟩ := first
  obtain ⟨later, other_later, rfl, rfl⟩ := second
  exact ⟨events ++ later, others ++ other_later, by rw [observe_append], by rw [observe_append]⟩

theorem untraced (ahead : Ahead before other_before after other_after)
    (same : before.untraced = other_before.untraced) : after.untraced = other_after.untraced := by
  obtain ⟨events, others, rfl, rfl⟩ := ahead
  exact same

end Network.Ahead

namespace Run

variable {α β : Type}

/-- Two runs end alike: with results that stand in a relation, together with the networks, or with
the same failure. -/
inductive Ends (post : α → β → Network → Network → Prop) :
    Network × Except Failure α → Network × Except Failure β → Prop where
  /-- Both give a result. -/
  | returned {value other after other_after} (related : post value other after other_after) :
      Ends post (after, .ok value) (other_after, .ok other)
  /-- Both fail. -/
  | failed {failure after other_after} :
      Ends post (after, .error failure) (other_after, .error failure)

/-- Why there is no value, if there is none. -/
def failure? : Except Failure α → Option Failure
  | .ok _ => none
  | .error failure => some failure

theorem failure?_map (outcome : Except Failure α) (function : α → β) :
    failure? (outcome.map function) = failure? outcome := by
  cases outcome <;> rfl

theorem Ends.mono {post wider : α → β → Network → Network → Prop}
    {outcome : Network × Except Failure α} {other_outcome : Network × Except Failure β}
    (ends : Ends post outcome other_outcome)
    (implied : ∀ value other after other_after, post value other after other_after →
      wider value other after other_after) : Ends wider outcome other_outcome := by
  cases ends with
  | returned related => exact .returned (implied _ _ _ _ related)
  | failed => exact .failed

/-- Outcomes with the same failure, or none, end a run alike. -/
theorem Ends.of_failure? {post : α → β → Network → Network → Prop} {after other_after : Network}
    {outcome : Except Failure α} {other_outcome : Except Failure β}
    (same : failure? outcome = failure? other_outcome)
    (related : ∀ value other, outcome = .ok value → other_outcome = .ok other →
      post value other after other_after) :
    Ends post (after, outcome) (other_after, other_outcome) := by
  cases outcome with
  | ok value =>
      cases other_outcome with
      | ok other => exact .returned (related value other rfl rfl)
      | error failure => cases same
  | error failure =>
      cases other_outcome with
      | ok other => cases same
      | error other_failure =>
          obtain rfl := Option.some.inj same
          exact .failed

end Run

/-- Two bodies can both be read, or reading them fails in the same way. -/
def Body.ReadsLike (body other : Body) : Prop :=
  Run.failure? (body.toContent .caller).read.result =
    Run.failure? (other.toContent .caller).read.result

namespace Observer

open Run

variable (observer : Observer) {α β γ δ : Type}

/-- What is seen of events. -/
def view (events : List Event) : List Event :=
  events.filter observer.sees

theorem view_append (events later : List Event) :
    observer.view (events ++ later) = observer.view events ++ observer.view later :=
  List.filter_append events later

theorem view_eq_nil {events : List Event} (unseen : ∀ event ∈ events, observer.sees event = false) :
    observer.view events = [] := by
  apply List.filter_eq_nil_iff.mpr
  intro event member
  simp [unseen event member]

theorem view_read (content : Content) : observer.view content.read.events = [] :=
  observer.view_eq_nil fun event member =>
    observer.sees_no_body event (Content.owner_of_read member)

theorem view_close (content : Content) : observer.view content.close.events = [] := by
  apply observer.view_eq_nil
  intro event member
  rw [content.gate.close_events event member]
  exact observer.sees_no_body _ rfl

/-- The observer sees the same of two runs, which end alike. -/
structure Confuses (post : α → β → Network → Network → Prop) (action : Run α) (other : Run β)
    (before other_before : Network) : Prop where
  /-- What the runs add to the trace looks the same. -/
  seen : ∃ events others, (final action before).trace = before.trace ++ events ∧
    (final other other_before).trace = other_before.trace ++ others ∧
    observer.view events = observer.view others
  /-- The runs end alike. -/
  ends : Ends post (finish action before) (finish other other_before)

namespace Confuses

variable {observer} {post : α → β → Network → Network → Prop}
variable {action : Run α} {other : Run β} {before other_before : Network}

/-- Two runs that show the same show it on the whole. -/
theorem view_observed (confused : observer.Confuses post action other before other_before) :
    observer.view (observed action before) = observer.view (observed other other_before) := by
  obtain ⟨events, others, trace_eq, other_trace_eq, view_eq⟩ := confused.seen
  rw [observed_of_trace trace_eq, observed_of_trace other_trace_eq, view_eq]

/-- Two runs that end with equal results do so on the whole. -/
theorem result_eq {post : α → α → Network → Network → Prop} {action other : Run α}
    (confused : observer.Confuses post action other before other_before)
    (equal : ∀ value other after other_after, post value other after other_after → value = other) :
    result action before = result other other_before := by
  have ended := confused.ends
  rw [Run.result_eq, Run.result_eq]
  generalize finish action before = outcome at ended ⊢
  generalize finish other other_before = other_outcome at ended ⊢
  cases ended with
  | returned related => rw [equal _ _ _ _ related]
  | failed => rfl

theorem mono {wider : α → β → Network → Network → Prop}
    (confused : observer.Confuses post action other before other_before)
    (implied : ∀ value other after other_after, post value other after other_after →
      wider value other after other_after) :
    observer.Confuses wider action other before other_before :=
  ⟨confused.seen, confused.ends.mono implied⟩

theorem of_finish {after other_after : Network} {events others : List Event}
    {outcome : Except Failure α} {other_outcome : Except Failure β}
    (finish_eq : finish action before = (after, outcome))
    (other_finish_eq : finish other other_before = (other_after, other_outcome))
    (trace_eq : after.trace = before.trace ++ events)
    (other_trace_eq : other_after.trace = other_before.trace ++ others)
    (view_eq : observer.view events = observer.view others)
    (ends : Ends post (after, outcome) (other_after, other_outcome)) :
    observer.Confuses post action other before other_before where
  seen := ⟨events, others, by rw [final_eq, finish_eq, trace_eq],
    by rw [final_eq, other_finish_eq, other_trace_eq], view_eq⟩
  ends := by rwa [finish_eq, other_finish_eq]

theorem pure {value : α} {other_value : β} (related : post value other_value before other_before) :
    observer.Confuses post (Pure.pure value) (Pure.pure other_value) before other_before where
  seen := ⟨[], [], by simp [final_eq], by simp [final_eq], rfl⟩
  ends := .returned related

theorem throw (failure : Failure) :
    observer.Confuses post (MonadExcept.throw failure) (MonadExcept.throw failure) before
      other_before where
  seen := ⟨[], [], by simp [final_eq], by simp [final_eq], rfl⟩
  ends := .failed

/-- Runs that go on as confused runs do, after steps that look the same, are confused. -/
theorem of_later {later : Run α} {other_later : Run β} {between other_between : Network}
    {events others : List Event} (trace_eq : between.trace = before.trace ++ events)
    (other_trace_eq : other_between.trace = other_before.trace ++ others)
    (view_eq : observer.view events = observer.view others)
    (finish_eq : finish action before = finish later between)
    (other_finish_eq : finish other other_before = finish other_later other_between)
    (confused : observer.Confuses post later other_later between other_between) :
    observer.Confuses post action other before other_before := by
  obtain ⟨added, others_added, later_eq, other_later_eq, same⟩ := confused.seen
  refine ⟨⟨events ++ added, others ++ others_added, ?_, ?_, ?_⟩, ?_⟩
  · rw [final_eq, finish_eq, ← final_eq, later_eq, trace_eq, List.append_assoc]
  · rw [final_eq, other_finish_eq, ← final_eq, other_later_eq, other_trace_eq, List.append_assoc]
  · rw [view_append, view_append, view_eq, same]
  · rw [finish_eq, other_finish_eq]
    exact confused.ends

/-- Runs in sequence are confused when their parts are. -/
theorem bind {middle : α → β → Network → Network → Prop} {next : α → Run γ} {other_next : β → Run δ}
    {post : γ → δ → Network → Network → Prop}
    (first : observer.Confuses middle action other before other_before)
    (second : ∀ value other_value between other_between,
      middle value other_value between other_between →
      observer.Confuses post (next value) (other_next other_value) between other_between) :
    observer.Confuses post (action >>= next) (other >>= other_next) before other_before := by
  obtain ⟨events, others, trace_eq, other_trace_eq, view_eq⟩ := first.seen
  have ended := first.ends
  have bound := finish_bind action next before
  have other_bound := finish_bind other other_next other_before
  rw [final_eq] at trace_eq other_trace_eq
  generalize finish action before = outcome at ended trace_eq bound
  generalize finish other other_before = other_outcome at ended other_trace_eq other_bound
  cases ended with
  | returned related =>
      exact of_later trace_eq other_trace_eq view_eq bound other_bound (second _ _ _ _ related)
  | @failed failure after other_after =>
      have stopped : observer.Confuses post (MonadExcept.throw failure : Run γ)
          (MonadExcept.throw failure : Run δ) after other_after := throw failure
      exact of_later trace_eq other_trace_eq view_eq (by exact bound) (by exact other_bound) stopped

/-- Runs with handlers are confused when their parts are. -/
theorem tryCatch {handler : Failure → Run α} {other_handler : Failure → Run β}
    (first : observer.Confuses post action other before other_before)
    (second : ∀ failure between other_between,
      observer.Confuses post (handler failure) (other_handler failure) between other_between) :
    observer.Confuses post (MonadExcept.tryCatch action handler)
      (MonadExcept.tryCatch other other_handler) before other_before := by
  obtain ⟨events, others, trace_eq, other_trace_eq, view_eq⟩ := first.seen
  have ended := first.ends
  have caught := finish_tryCatch action handler before
  have other_caught := finish_tryCatch other other_handler other_before
  rw [final_eq] at trace_eq other_trace_eq
  generalize finish action before = outcome at ended trace_eq caught
  generalize finish other other_before = other_outcome at ended other_trace_eq other_caught
  cases ended with
  | @returned value other_value after other_after related =>
      have stopped : observer.Confuses post (Pure.pure value : Run α)
          (Pure.pure other_value : Run β) after other_after := pure related
      exact of_later trace_eq other_trace_eq view_eq (by exact caught) (by exact other_caught)
        stopped
  | @failed failure after other_after =>
      exact of_later trace_eq other_trace_eq view_eq caught other_caught
        (second failure after other_after)

/-! ## Single steps -/

theorem emit {event other_event : Event}
    (view_eq : observer.view [event] = observer.view [other_event]) :
    observer.Confuses (fun _ _ => Network.Ahead before other_before) (Run.emit event)
      (Run.emit other_event) before other_before :=
  of_finish (finish_emit event before) (finish_emit other_event other_before) rfl rfl view_eq
    (.returned ⟨_, _, rfl, rfl⟩)

theorem log (record : LogRecord) :
    observer.Confuses (fun _ _ => Network.Ahead before other_before) (Run.log record)
      (Run.log record) before other_before :=
  emit rfl

/-- The same value is taken from the same outcome. -/
theorem ofExcept {ε : Type} (cause : ε → Failure) (outcome : Except ε α) :
    observer.Confuses
      (fun value other after other_after =>
        value = other ∧ Network.Ahead before other_before after other_after)
      (Run.ofExcept cause outcome) (Run.ofExcept cause outcome) before other_before := by
  cases outcome with
  | error error => exact throw (cause error)
  | ok value => exact pure ⟨rfl, .refl⟩

/-- Bodies of which one reads like the other. -/
theorem readBody {body other_body : Body} (bodies : body.ReadsLike other_body) :
    observer.Confuses
      (fun data other_data after other_after =>
        ((body.toContent .caller).read.result = .ok data ∧
          (other_body.toContent .caller).read.result = .ok other_data) ∧
        Network.Ahead before other_before after other_after)
      (Run.readBody .caller body) (Run.readBody .caller other_body) before other_before := by
  refine of_finish (finish_readBody .caller body before)
    (finish_readBody .caller other_body other_before) rfl rfl ?_ ?_
  · rw [view_read, view_read]
  · exact .of_failure? bodies fun _ _ read other_read =>
      ⟨⟨read, other_read⟩, _, _, rfl, rfl⟩

theorem release {response other_response : Response}
    (closes : response.body.close.result = other_response.body.close.result) :
    observer.Confuses (fun _ _ => Network.Ahead before other_before) (Run.release response)
      (Run.release other_response) before other_before := by
  refine of_finish (finish_release response before)
    (finish_release other_response other_before) rfl rfl ?_ ?_
  · rw [view_close, view_close]
  · exact .of_failure? (congrArg failure? closes) fun _ _ _ _ => ⟨_, _, rfl, rfl⟩

/-- A run looks like itself on a network that differs in what was observed before. -/
theorem of_blind (blind : Blind action) (same : before.untraced = other_before.untraced) :
    observer.Confuses
      (fun value other after other_after => value = other ∧ after.untraced = other_after.untraced)
      action action before other_before := by
  have start_eq (network : Network) : network = network.untraced.observe network.trace := rfl
  have finished := blind.finish_observe before.untraced before.trace
  have other_finished := blind.finish_observe before.untraced other_before.trace
  rw [← start_eq] at finished
  rw [same, ← start_eq, ← same] at other_finished
  let added := observed action before.untraced
  refine ⟨⟨added, added, ?_, ?_, rfl⟩, ?_⟩
  · rw [final_eq, finished]
    rfl
  · rw [final_eq, other_finished]
    rfl
  · rw [finished, other_finished]
    cases result action before.untraced with
    | ok value => exact .returned ⟨rfl, rfl⟩
    | error failure => exact .failed

end Confuses
end Observer

/-! ## Requests -/

/-- The event is a request that a party receives. -/
def Event.isRequestTo (peer : Peer) : Event → Bool
  | .request receiver _ _ _ => receiver == peer
  | .send .. => peer == .client
  | _ => false

namespace Endpoint

/-- The party that answers. -/
def peer : Endpoint → Peer
  | .party peer => peer
  | .remote .. => .client

/-- The content that is made of the body of a reply. -/
def content : Endpoint → Owner → Body → Option Hook → Content
  | .party _ => Body.contentOver
  | .remote .. => fun owner body _ => body.received owner

open Run

/-- What is known of two responses and the networks after them: the status is the same, and what is
observed later has no influence. -/
structure Lasting (post : Response → Response → Network → Network → Prop) : Prop where
  /-- The responses have the same status. -/
  status_eq : ∀ {response other after other_after}, post response other after other_after →
    response.status = other.status
  /-- What is observed has no influence. -/
  observe : ∀ {response other after other_after} (events others : List Event),
    post response other after other_after →
    post response other (after.observe events) (other_after.observe others)

variable {observer : Observer} {post : Response → Response → Network → Network → Prop}
variable {body other_body : Body} {before other_before : Network}

/-- Requests that are not seen may differ in their headers and bodies. -/
theorem confuses_respond (endpoint : Endpoint) (line : Option Text)
    (headers other_headers : Headers)
    (unseen : ∀ event : Event, event.isRequestTo endpoint.peer → observer.sees event = false)
    (bodies : body.ReadsLike other_body) (lasting : Lasting post)
    (receiving : ∀ between other_between,
      Network.Ahead before other_before between other_between →
      observer.Confuses post (receive endpoint.peer endpoint.content)
        (receive endpoint.peer endpoint.content) between other_between) :
    observer.Confuses post (endpoint.respond line headers body)
      (endpoint.respond line other_headers other_body) before other_before := by
  have hidden (event : Event) (request : event.isRequestTo endpoint.peer) :
      observer.view [event] = [] :=
    observer.view_eq_nil (by simpa using unseen event request)
  cases endpoint with
  | party peer =>
      have requested (headers : Headers) (data : Octets) :
          observer.view [.request peer line headers data] = [] :=
        hidden _ (beq_self_eq_true peer)
      refine .bind (.readBody bodies) ?_
      rintro data other_data read other_read ⟨-, reading⟩
      refine .bind (.emit (by rw [requested, requested])) ?_
      intro _ _ _ _ requesting
      exact receiving _ _ (reading.trans requesting)
  | remote secure host port =>
      have sent (method url : Text) (headers : Headers) (content : Option Octets) :
          observer.view [.send method url headers content] = [] :=
        hidden _ rfl
      refine .bind (.ofExcept .requestLine (RequestLine.parse line)) ?_
      rintro parsed _ _ _ ⟨rfl, parsing⟩
      refine .bind (.readBody bodies) ?_
      rintro data other_data _ _ ⟨-, reading⟩
      refine .bind (.log _) ?_
      intro _ _ _ _ logging
      refine .bind (.emit (by rw [sent, sent])) ?_
      intro _ _ _ _ requesting
      refine .bind (receiving _ _ (parsing.trans (reading.trans (logging.trans requesting)))) ?_
      intro response other_response _ _ received
      rw [lasting.status_eq received]
      refine .bind (.log _) ?_
      rintro _ _ _ _ ⟨events, others, rfl, rfl⟩
      exact .pure (lasting.observe events others received)

end Endpoint

/-- Paths in front of a service are the same for both runs. -/
theorem Service.confuses_underAll {observer : Observer}
    {post : Response → Response → Network → Network → Prop} {headers other_headers : Headers}
    {body other_body : Body} {before other_before : Network} {service : Service}
    (responding : ∀ line between other_between,
      Network.Ahead before other_before between other_between →
      observer.Confuses post (service.respond line headers body)
        (service.respond line other_headers other_body) between other_between)
    (paths : List Text) (line : Option Text) :
    observer.Confuses post ((service.underAll paths).respond line headers body)
      ((service.underAll paths).respond line other_headers other_body) before other_before := by
  induction paths generalizing service with
  | nil => exact responding line _ _ .refl
  | cons path others induction =>
      apply induction
      intro line between other_between ahead
      refine .bind (.ofExcept .requestLine (RequestLine.parse line)) ?_
      rintro parsed _ _ _ ⟨rfl, parsing⟩
      exact responding _ _ _ (ahead.trans parsing)

end HttpAuth
