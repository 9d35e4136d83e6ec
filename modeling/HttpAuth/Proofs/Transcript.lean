import HttpAuth.Proofs.Retry

/-!
# Transcripts

A request with credentials goes one of seven ways once its body is read, and the answers that are
set for the authenticator and the replies of the origin tell which.  A transcript is one of these
ways: everything that is observed, in order, and the result.
-/

namespace HttpAuth
namespace Service

open Run

/-- What comes of asking an authenticator that has this answer next, or none. -/
def answerOf (name : Text) : Option Verdict → Except Failure Headers
  | none => .error (.exhausted (.authenticator name))
  | some (.headers headers) => .ok headers
  | some (.failure failure) => .error failure

/-- What comes of a request to the origin that has this reply next, or none. -/
def responseOf (number : Nat) : Option Reply → Except Failure Response
  | none => .error (.exhausted (.peer .origin))
  | some (.failure failure) => .error failure
  | some (.response status headers body hook) =>
      .ok { status, headers, body := Body.contentOver (.reply .origin number) body hook }

/-- The release of a reply of the origin, as far as it can be observed. -/
def releaseOf (number : Nat) (hook : Option Hook) : List Event :=
  if hook.isSome then [.close (.reply .origin number) 0] else []

theorem responseOf_of_fresh {number : Nat} {reply : Option Reply} {response : Response}
    {body : Body} {hook : Option Hook}
    (reply_eq : reply = some (.response response.status response.headers body hook))
    (fresh : response.body = Body.contentOver (.reply .origin number) body hook) :
    responseOf number reply = .ok response := by
  rw [reply_eq, responseOf, ← fresh]

theorem mem_releaseOf {number : Nat} {hook : Option Hook} {event : Event}
    (member : event ∈ releaseOf number hook) : event = .close (.reply .origin number) 0 := by
  rw [releaseOf] at member
  split at member
  · exact List.mem_singleton.mp member
  · cases member

/-- What is observed up to the first reply of the origin. -/
def attempt (name : Text) (line : Option Text) (headers : Headers) (data : Octets)
    (first : Headers) : List Event :=
  [.authenticate name .empty, .log (.sending line first.size),
    .request .origin line (headers ++ first) data]

/-- The way of a request whose body is read, when the authenticator has these answers and the origin
these replies left, the first with this number. -/
inductive Transcript (name : Text) (line : Option Text) (headers : Headers) (data : Octets)
    (answers : List Verdict) (replies : List Reply) (number : Nat) :
    List Event → Except Failure Response → Prop where
  /-- The authenticator fails. -/
  | unasked {failure} (first_answer : answerOf name answers[0]? = .error failure) :
      Transcript name line headers data answers replies number [.authenticate name .empty]
        (.error failure)
  /-- The origin fails. -/
  | unsent {first failure} (first_answer : answerOf name answers[0]? = .ok first)
      (first_reply : responseOf number replies[0]? = .error failure) :
      Transcript name line headers data answers replies number
        (attempt name line headers data first) (.error failure)
  /-- The first response is no challenge. -/
  | accepted {first response} (first_answer : answerOf name answers[0]? = .ok first)
      (first_reply : responseOf number replies[0]? = .ok response)
      (accepted : response.status ≠ unauthorized) :
      Transcript name line headers data answers replies number
        (attempt name line headers data first) (.ok response)
  /-- The authenticator fails on the challenge. -/
  | unmet {first received content hook failure}
      (first_answer : answerOf name answers[0]? = .ok first)
      (challenge : replies[0]? = some (.response unauthorized received content hook))
      (second_answer : answerOf name answers[1]? = .error failure) :
      Transcript name line headers data answers replies number
        (attempt name line headers data first ++ .authenticate name received ::
          releaseOf number hook)
        (.error (if hook = some .failing then .closing (.reply .origin number) else failure))
  /-- The authenticator has nothing to offer. -/
  | declined {first second received content hook}
      (first_answer : answerOf name answers[0]? = .ok first)
      (challenge : replies[0]? = some (.response unauthorized received content hook))
      (second_answer : answerOf name answers[1]? = .ok second) (nothing : second.isEmpty = true) :
      Transcript name line headers data answers replies number
        (attempt name line headers data first ++
          [.authenticate name received, .log (.noCredentials line)])
        (.ok
          { status := unauthorized
            headers := received
            body := Body.contentOver (.reply .origin number) content hook })
  /-- The release of the challenge fails. -/
  | unreleased {first second received content hook}
      (first_answer : answerOf name answers[0]? = .ok first)
      (challenge : replies[0]? = some (.response unauthorized received content hook))
      (second_answer : answerOf name answers[1]? = .ok second) (something : second.isEmpty = false)
      (failing : hook = some .failing) :
      Transcript name line headers data answers replies number
        (attempt name line headers data first ++
          .authenticate name received :: .log (.retrying line) :: releaseOf number hook)
        (.error (.closing (.reply .origin number)))
  /-- The request is sent once more. -/
  | retried {first second received content hook}
      (first_answer : answerOf name answers[0]? = .ok first)
      (challenge : replies[0]? = some (.response unauthorized received content hook))
      (second_answer : answerOf name answers[1]? = .ok second) (something : second.isEmpty = false)
      (released : hook ≠ some .failing) :
      Transcript name line headers data answers replies number
        (attempt name line headers data first ++
          .authenticate name received :: .log (.retrying line) ::
            (releaseOf number hook ++ [.request .origin line (headers ++ second) data]))
        (responseOf (number + 1) replies[1]?)

/-! ## Single calls -/

section Calls

variable {number : Nat} {name : Text} {line : Option Text} {headers given : Headers}
variable {before after : Network} {data : Octets}

theorem asking_outcome {result : Except Failure Headers}
    (asking : finish ((Authenticator.scripted number name).answer given) before =
      (after, result)) : answerOf name (before.answers number)[0]? = result := by
  simp only [Authenticator.answer, finish_bind, finish_emit, finish_verdict,
    Network.answers_observe] at asking
  split at asking
  all_goals
    rename_i answers_eq
    cases asking
    rw [answers_eq]
    rfl

theorem sending_outcome {result : Except Failure Response}
    (sending : finish (toOrigin line headers (.bytes data)) before = (after, result)) :
    responseOf before.origin.served before.origin.pending[0]? = result := by
  have pending_eq : (before.script .origin).pending = before.origin.pending := rfl
  simp only [toOrigin, respond, Endpoint.respond, finish_bind, finish_readBody, finish_emit,
    finish_receive, Body.toContent, Body.contentOver, Body.contentAt, Content.read,
    Network.observe_nil, Network.script_observe, pending_eq] at sending
  split at sending
  all_goals
    rename_i replies_eq
    cases sending
    rw [replies_eq]
    rfl

theorem sending_served {response : Response}
    (sending : finish (toOrigin line headers (.bytes data)) before = (after, .ok response)) :
    after.origin.served = before.origin.served + 1 := by
  simp only [toOrigin, respond, Endpoint.respond, finish_bind, finish_readBody, finish_emit,
    finish_receive, Body.toContent, Body.contentOver, Body.contentAt, Content.read,
    Network.observe_nil, Network.script_observe] at sending
  split at sending
  · cases sending
  · cases sending
  · cases sending
    rfl

theorem releasing_outcome {response : Response} {content : Body} {hook : Option Hook}
    {result : Except Failure Unit}
    (fresh : response.body = Body.contentOver (.reply .origin number) content hook)
    (releasing : finish (release response) before = (after, result)) :
    after = before.observe (releaseOf number hook) ∧
      result =
        if hook = some .failing then .error (.closing (.reply .origin number)) else .ok () := by
  obtain ⟨events_eq, result_eq⟩ := Body.contentOver_close (.reply .origin number) content hook
  rw [finish_release, fresh, events_eq, result_eq] at releasing
  obtain ⟨rfl, rfl⟩ := Prod.mk.inj releasing
  exact ⟨rfl, rfl⟩

/-! ## Whole requests -/

variable {body : Body} {response : Response} {result : Except Failure Response}

theorem opening_served
    (opening : Opening (toOrigin line) (.scripted number name) line headers body before after
      (.ok (data, response))) : after.origin.served = before.origin.served + 1 := by
  cases opening with
  | answered reading asking sending =>
      obtain ⟨-, -, read_origin, -⟩ := reading_recorded reading
      obtain ⟨-, asked_origin, -⟩ := asking_recorded asking
      rw [sending_served sending, ← read_origin, ← asked_origin]
      rfl

/-- A request without a first response ends with the first failure of its authenticator or of the
origin. -/
theorem transcript_of_failed {failure : Failure}
    (read : (body.toContent .caller).read.result = .ok data)
    (opening : Opening (toOrigin line) (.scripted number name) line headers body before after
      (.error failure)) :
    ∃ events, after.trace = before.trace ++ ((body.toContent .caller).read.events ++ events) ∧
      Transcript name line headers data (before.answers number) before.origin.pending
        before.origin.served events (.error failure) := by
  cases opening with
  | unread reading =>
      obtain ⟨-, -, -, unread⟩ := reading_recorded reading
      rw [read] at unread
      cases unread
  | unasked reading asking =>
      obtain ⟨read_trace, read_answers, -, -⟩ := reading_recorded reading
      obtain ⟨asked_trace, -, -⟩ := asking_recorded asking
      have unanswered := asking_outcome asking
      rw [read_trace, List.append_assoc] at asked_trace
      rw [read_answers] at unanswered
      exact ⟨_, asked_trace, .unasked unanswered⟩
  | unsent reading asking sending =>
      obtain ⟨read_trace, read_answers, read_origin, same⟩ := reading_recorded reading
      obtain rfl := Except.ok.inj (read.symm.trans same)
      obtain ⟨asked_trace, asked_origin, -⟩ := asking_recorded asking
      obtain ⟨sent_trace, -, -⟩ := sending_recorded sending
      have answered := asking_outcome asking
      have unreplied := sending_outcome sending
      change responseOf _ _ = _ at unreplied
      simp only [Network.trace_observe, asked_trace, read_trace, List.append_assoc] at sent_trace
      rw [read_answers] at answered
      simp only [Network.observe, asked_origin, read_origin] at unreplied
      exact ⟨_, sent_trace, .unsent answered unreplied⟩

/-- A challenge is followed by the second answer of the authenticator and by what comes of it. -/
theorem transcript_of_meeting {answers : List Verdict} {replies : List Reply} {origin : Nat}
    {first : Headers} {content : Body} {hook : Option Hook}
    (first_answer : answerOf name answers[0]? = .ok first)
    (challenge : replies[0]? = some (.response unauthorized response.headers content hook))
    (challenged : response.status = unauthorized)
    (fresh : response.body = Body.contentOver (.reply .origin origin) content hook)
    (answers_left : answers[1]? = (before.answers number)[0]?)
    (replies_left : replies[1]? = before.origin.pending[0]?)
    (served : before.origin.served = origin + 1)
    (meeting : Meeting (toOrigin line) (.scripted number name) line headers data response before
      after result) :
    ∃ events, after.trace = before.trace ++ events ∧
      Transcript name line headers data answers replies origin
        (attempt name line headers data first ++ events) result := by
  cases meeting with
  | @unmet _ _ reason _ failure asking releasing cause =>
      obtain ⟨asked_trace, -, -⟩ := asking_recorded asking
      obtain ⟨rfl, outcome⟩ := releasing_outcome fresh releasing
      have unanswered := asking_outcome asking
      rw [← answers_left] at unanswered
      -- The failure of the release replaces the one of the authenticator.
      have failure_eq :
          failure = if hook = some .failing then .closing (.reply .origin origin) else reason := by
        rw [outcome] at cause
        by_cases failing : hook = some .failing
        · simpa [failing, eq_comm] using cause
        · simpa [failing] using cause
      refine ⟨.authenticate name response.headers :: releaseOf origin hook, ?_, ?_⟩
      · rw [Network.trace_observe, asked_trace, List.append_assoc, List.singleton_append]
      · rw [failure_eq]
        exact .unmet first_answer challenge unanswered
  | declined asking nothing =>
      obtain ⟨asked_trace, -, -⟩ := asking_recorded asking
      have declined := asking_outcome asking
      rw [← answers_left] at declined
      refine ⟨[.authenticate name response.headers, .log (.noCredentials line)], ?_, ?_⟩
      · rw [Network.trace_observe, asked_trace, List.append_assoc, List.singleton_append]
      · have response_eq : response =
            { status := unauthorized
              headers := response.headers
              body := Body.contentOver (.reply .origin origin) content hook } := by
          rw [← challenged, ← fresh]
        rw [response_eq]
        exact .declined first_answer challenge declined nothing
  | @unreleased _ _ second failure asking something releasing =>
      obtain ⟨asked_trace, -, -⟩ := asking_recorded asking
      obtain ⟨rfl, outcome⟩ := releasing_outcome fresh releasing
      have answered := asking_outcome asking
      rw [← answers_left] at answered
      have failing : hook = some .failing := by
        by_cases failing : hook = some .failing
        · exact failing
        · simp [failing] at outcome
      have failure_eq : failure = .closing (.reply .origin origin) := by
        simpa [failing] using outcome
      refine ⟨.authenticate name response.headers :: .log (.retrying line) ::
        releaseOf origin hook, ?_, ?_⟩
      · simp [asked_trace]
      · rw [failure_eq]
        exact .unreleased first_answer challenge answered something failing
  | @retried _ _ _ second _ asking something releasing sending =>
      obtain ⟨asked_trace, asked_origin, -⟩ := asking_recorded asking
      obtain ⟨rfl, outcome⟩ := releasing_outcome fresh releasing
      obtain ⟨sent_trace, -, -⟩ := sending_recorded sending
      have answered := asking_outcome asking
      have replied := sending_outcome sending
      rw [← answers_left] at answered
      simp only [Network.observe, asked_origin, served, ← replies_left] at replied
      have released : hook ≠ some .failing := by
        intro failing
        simp [failing] at outcome
      refine ⟨.authenticate name response.headers :: .log (.retrying line) ::
        (releaseOf origin hook ++ [.request .origin line (headers ++ second) data]), ?_, ?_⟩
      · simp [sent_trace, asked_trace]
      · rw [← replied]
        exact .retried first_answer challenge answered something released

end Calls

/-- A request whose body is read goes the way that the answers and replies tell. -/
theorem transcript_of_read (number : Nat) (name : Text) (line : Option Text) (headers : Headers)
    {body : Body} {data : Octets} (read : (body.toContent .caller).read.result = .ok data)
    (network : Network) :
    let call := (recorded number name).respond line headers body
    ∃ events,
      observed call network = (body.toContent .caller).read.events ++ events ∧
        Transcript name line headers data (network.answers number) network.origin.pending
          network.origin.served events (result call network) := by
  intro call
  have course := course_of_authenticate (toOrigin line) (.scripted number name) line headers body
    network
  change Course _ _ _ _ _ _ (final call network) (result call network) at course
  have goes : ∃ events,
      (final call network).trace =
          network.trace ++ ((body.toContent .caller).read.events ++ events) ∧
        Transcript name line headers data (network.answers number) network.origin.pending
          network.origin.served events (result call network) := by
    generalize final call network = after at course ⊢
    generalize result call network = outcome at course ⊢
    cases course with
    | failed opening => exact transcript_of_failed read opening
    | accepted opening accepted =>
        obtain ⟨same, data_eq, first, content, hook, answers_eq, pending_eq, fresh, trace_eq⟩ :=
          opening_recorded opening
        obtain rfl := Except.ok.inj (read.symm.trans same)
        have answered : answerOf name (network.answers number)[0]? = .ok first := by
          rw [answers_eq]
          rfl
        have replied := responseOf_of_fresh (congrArg (·[0]?) pending_eq) fresh
        rw [← data_eq] at trace_eq
        exact ⟨_, trace_eq, .accepted answered replied accepted⟩
    | challenged opening challenged meeting =>
        obtain ⟨same, data_eq, first, content, hook, answers_eq, pending_eq, fresh, trace_eq⟩ :=
          opening_recorded opening
        obtain rfl := Except.ok.inj (read.symm.trans same)
        have answered : answerOf name (network.answers number)[0]? = .ok first := by
          rw [answers_eq]
          rfl
        rw [challenged] at pending_eq
        obtain ⟨events, rest_eq, transcript⟩ :=
          transcript_of_meeting answered (congrArg (·[0]?) pending_eq) challenged fresh
            (congrArg (·[1]?) answers_eq) (congrArg (·[1]?) pending_eq) (opening_served opening)
            meeting
        refine ⟨_, ?_, transcript⟩
        rw [rest_eq, trace_eq, ← data_eq, List.append_assoc, List.append_assoc]
        rfl
  obtain ⟨events, trace_eq, transcript⟩ := goes
  exact ⟨events, observed_of_trace trace_eq, transcript⟩

/-- A request whose body cannot be read ends there. -/
theorem finish_unread (number : Nat) (name : Text) (line : Option Text) (headers : Headers)
    {body : Body} {failure : Failure}
    (unread : (body.toContent .caller).read.result = .error failure) (network : Network) :
    finish ((recorded number name).respond line headers body) network =
      (network.observe (body.toContent .caller).read.events, .error failure) := by
  simp only [recorded, respond, authenticate, finish_bind, finish_readBody, unread]

end Service
end HttpAuth
