import HttpAuth.Proofs.Body
import HttpAuth.Proofs.Course

/-!
# The retry protocol

A request with credentials reads its body once and before anything else.  It then makes at most four
calls: the authenticator is asked with no headers, the request is sent, and if the answer is a
challenge the authenticator is asked with the headers of the challenge and the request is sent once
more.  Whether a call is made depends on the answers to the calls before it alone.
-/

namespace HttpAuth

/-- An authenticator is asked or a request is sent to the origin. -/
def Event.isCall : Event → Bool
  | .authenticate .. => true
  | .request .origin .. => true
  | _ => false

/-- Reading a body is no call. -/
theorem Body.read_makes_no_call (body : Body) :
    (body.toContent .caller).read.events.filter Event.isCall = [] := by
  rw [List.filter_eq_nil_iff]
  intro event member
  have owned := body.read_owner .caller event member
  cases event <;> simp [Event.owner?, Event.isCall] at owned ⊢

namespace Service

open Run

/-- A service whose origin and authenticator do whatever they are set to do. -/
def recorded (number : Nat) (name : Text) : Service :=
  .authenticated (.direct (.party .origin)) (.scripted number name)

/-- Requests to the origin. -/
def toOrigin (line : Option Text) (headers : Headers) (body : Body) : Run Response :=
  (Service.direct (.party .origin)).respond line headers body

/-- The calls of a request with credentials whose body was read, when the authenticator has these
answers and the origin these replies left. -/
structure CallsFollow (name : Text) (line : Option Text) (headers : Headers) (data : Octets)
    (answers : List Verdict) (replies : List Reply) (calls : List Event) : Prop where
  /-- There are at most four calls. -/
  length_le : calls.length ≤ 4
  /-- The authenticator is asked with no headers. -/
  first_ask : calls[0]? = some (.authenticate name .empty)
  /-- Its answer is added to the headers of a request with the data of the body. -/
  first_request : ∀ call, calls[1]? = some call ↔
    ∃ first, answers[0]? = some (.headers first) ∧
      call = .request .origin line (headers ++ first) data
  /-- The authenticator is asked with the headers of the reply if that has the status of a
  challenge. -/
  second_ask : ∀ call, calls[2]? = some call ↔
    calls[1]?.isSome ∧ ∃ received content hook,
      replies[0]? = some (.response unauthorized received content hook) ∧
        call = .authenticate name received
  /-- Its answer is added to the headers of a second request, with the same line and data, if it is
  not empty and the release of the challenge does not fail. -/
  second_request : ∀ call, calls[3]? = some call ↔
    calls[2]?.isSome ∧ ∃ second received content hook,
      answers[1]? = some (.headers second) ∧ second.isEmpty = false ∧
        replies[0]? = some (.response unauthorized received content hook) ∧
        hook ≠ some .failing ∧
        call = .request .origin line (headers ++ second) data

/-- What is observed of a request with credentials, and its result. -/
structure FollowsProtocol (name : Text) (line : Option Text) (headers : Headers) (body : Body)
    (answers : List Verdict) (replies : List Reply) (observed : List Event)
    (result : Except Failure Response) : Prop where
  /-- Every chunk of the stream of the body is taken in order and its contents are released, and
  from then on it is not touched. -/
  reads_first : ∃ releases later,
    observed = (List.range body.streamed).map (.chunk .caller) ++ releases ++ later ∧
      (∀ event ∈ releases, ∃ layer, event = .close .caller layer) ∧
      ∀ event ∈ later, event.owner? ≠ some .caller
  /-- When the body cannot be read, there is no call. -/
  unread : ∀ failure, (body.toContent .caller).read.result = .error failure →
    observed.filter Event.isCall = [] ∧ result = .error failure
  /-- When the body can be read, its data is sent with every request. -/
  calls : ∀ data, (body.toContent .caller).read.result = .ok data →
    CallsFollow name line headers body.data answers replies (observed.filter Event.isCall)

namespace CallsFollow

variable {name : Text} {line : Option Text} {headers : Headers} {data : Octets}
variable {answers : List Verdict} {replies : List Reply}

theorem of_failing_authenticator (unanswered : ∀ first, answers[0]? ≠ some (.headers first)) :
    CallsFollow name line headers data answers replies [.authenticate name .empty] where
  length_le := by simp
  first_ask := rfl
  first_request := by simp_all
  second_ask := by simp
  second_request := by simp

theorem of_no_challenge {first : Headers} (answered : answers[0]? = some (.headers first))
    (unchallenged : ∀ received content hook,
      replies[0]? ≠ some (.response unauthorized received content hook)) :
    CallsFollow name line headers data answers replies
      [.authenticate name .empty, .request .origin line (headers ++ first) data] where
  length_le := by simp
  first_ask := rfl
  first_request := by simp [answered, eq_comm]
  second_ask := by simp_all
  second_request := by simp

theorem of_unmet_challenge {first received : Headers} {content : Body} {hook : Option Hook}
    (answered : answers[0]? = some (.headers first))
    (challenged : replies[0]? = some (.response unauthorized received content hook))
    (unmet : ∀ second, answers[1]? = some (.headers second) → second.isEmpty = false →
      hook = some .failing) :
    CallsFollow name line headers data answers replies
      [.authenticate name .empty, .request .origin line (headers ++ first) data,
        .authenticate name received] where
  length_le := by simp
  first_ask := rfl
  first_request := by simp [answered, eq_comm]
  second_ask := by simp [challenged, eq_comm]
  second_request := by
    intro call
    constructor
    · simp
    · rintro ⟨-, second, _, _, _, met, something, reply, released, -⟩
      rw [challenged] at reply
      cases reply
      exact absurd (unmet second met something) released

theorem of_met_challenge {first second received : Headers} {content : Body} {hook : Option Hook}
    (answered : answers[0]? = some (.headers first))
    (challenged : replies[0]? = some (.response unauthorized received content hook))
    (met : answers[1]? = some (.headers second)) (something : second.isEmpty = false)
    (released : hook ≠ some .failing) :
    CallsFollow name line headers data answers replies
      [.authenticate name .empty, .request .origin line (headers ++ first) data,
        .authenticate name received, .request .origin line (headers ++ second) data] where
  length_le := by simp
  first_ask := rfl
  first_request := by simp [answered, eq_comm]
  second_ask := by simp [challenged, eq_comm]
  second_request := by
    intro call
    constructor
    · intro sent
      exact ⟨rfl, second, received, content, hook, met, something, challenged, released,
        (Option.some.inj sent).symm⟩
    · rintro ⟨-, other, _, _, _, answer, -, -, -, rfl⟩
      rw [met] at answer
      cases answer
      rfl

end CallsFollow

/-! ## Single calls -/

/-- Asking an authenticator whose answers are set is observed and uses up one answer. -/
theorem asking_recorded {number : Nat} {name : Text} {given : Headers} {before after : Network}
    {result : Except Failure Headers}
    (asking : finish ((Authenticator.scripted number name).answer given) before =
      (after, result)) :
    after.trace = before.trace ++ [.authenticate name given] ∧ after.origin = before.origin ∧
      match result with
      | .ok headers => before.answers number = .headers headers :: after.answers number
      | .error _ => ∀ headers, (before.answers number)[0]? ≠ some (.headers headers) := by
  simp only [Authenticator.answer, finish_bind, finish_emit, finish_verdict,
    Network.answers_observe] at asking
  split at asking
  · rename_i none_left
    cases asking
    exact ⟨rfl, rfl, by simp [none_left]⟩
  · rename_i first others answering
    cases asking
    have given_answer : (before.observe [.authenticate name given]).answers number ≠ [] := by
      simp [answering]
    exact ⟨rfl, rfl, by rw [answering, Network.answers_withAnswers _ given_answer]⟩
  · rename_i failure others failing
    cases asking
    exact ⟨rfl, rfl, by simp [failing]⟩

/-- Sending a request to the origin is observed and uses up one reply. -/
theorem sending_recorded {line : Option Text} {headers : Headers} {data : Octets}
    {before after : Network} {result : Except Failure Response}
    (sending : finish (toOrigin line headers (.bytes data)) before = (after, result)) :
    after.trace = before.trace ++ [.request .origin line headers data] ∧
      (∀ number, after.answers number = before.answers number) ∧
      match result with
      | .ok response => ∃ body hook,
          before.origin.pending =
            .response response.status response.headers body hook :: after.origin.pending ∧
          response.body = Body.contentOver (.reply .origin before.origin.served) body hook
      | .error _ => ∀ status headers body hook,
          before.origin.pending[0]? ≠ some (.response status headers body hook) := by
  simp only [toOrigin, respond, Endpoint.respond, finish_bind, finish_readBody, finish_emit,
    finish_receive, Body.toContent, Body.contentOver, Body.contentAt, Content.read,
    Network.observe_nil, Network.script_observe] at sending
  split at sending
  · rename_i none_left
    cases sending
    exact ⟨rfl, fun _ => rfl, by simp [show before.origin.pending = [] from none_left]⟩
  · rename_i failure others failing
    cases sending
    refine ⟨rfl, fun _ => rfl, ?_⟩
    simp [show before.origin.pending = .failure failure :: others from failing]
  · rename_i status received content hook others replying
    cases sending
    exact ⟨rfl, fun _ => rfl, content, hook, replying, rfl⟩

/-- Releasing a reply of the origin is no call, and fails when it is set to fail. -/
theorem releasing_recorded {response : Response} {number : Nat} {content : Body}
    {hook : Option Hook} {before after : Network} {result : Except Failure Unit}
    (fresh : response.body = Body.contentOver (.reply .origin number) content hook)
    (releasing : finish (release response) before = (after, result)) :
    (∃ closing, after.trace = before.trace ++ closing ∧ closing.filter Event.isCall = [] ∧
      ∀ event ∈ closing, event.owner? ≠ some .caller) ∧
      (result = .ok () ↔ hook ≠ some .failing) := by
  obtain ⟨events_eq, result_eq⟩ := Body.contentOver_close (.reply .origin number) content hook
  rw [finish_release, fresh, events_eq, result_eq] at releasing
  obtain ⟨rfl, rfl⟩ := Prod.mk.inj releasing
  refine ⟨⟨_, rfl, ?_, ?_⟩, ?_⟩
  · cases hook <;> simp [Event.isCall]
  · cases hook <;> simp [Event.owner?]
  · by_cases failing : hook = some .failing <;> simp [failing]

/-! ## Whole requests -/

section Recorded

variable {number : Nat} {name : Text} {line : Option Text} {headers : Headers} {body : Body}
variable {before after : Network} {data : Octets} {response : Response}
variable {answers : List Verdict} {replies : List Reply} {result : Except Failure Response}

/-- A request whose body cannot be read makes no calls. -/
theorem followsProtocol_of_unread {failure : Failure}
    (unread : (body.toContent .caller).read.result = .error failure)
    (trace_eq : after.trace = before.trace ++ (body.toContent .caller).read.events) :
    FollowsProtocol name line headers body answers replies
      (after.trace.drop before.trace.length) (.error failure) := by
  rw [trace_eq, List.drop_left]
  obtain ⟨releases, events_eq, recorded⟩ := body.read_events .caller
  refine ⟨⟨releases, [], by rw [events_eq, List.append_nil], recorded, by simp⟩, ?_, ?_⟩
  · intro other other_unread
    rw [unread] at other_unread
    cases other_unread
    exact ⟨body.read_makes_no_call, rfl⟩
  · intro data read
    rw [unread] at read
    cases read

/-- A request whose body was read is judged by the calls that come after. -/
theorem followsProtocol_of_later {later : List Event}
    (read : (body.toContent .caller).read.result = .ok data)
    (trace_eq : after.trace = before.trace ++ ((body.toContent .caller).read.events ++ later))
    (untouched : ∀ event ∈ later, event.owner? ≠ some .caller)
    (calls : CallsFollow name line headers body.data answers replies
      (later.filter Event.isCall)) :
    FollowsProtocol name line headers body answers replies
      (after.trace.drop before.trace.length) result := by
  rw [trace_eq, List.drop_left]
  obtain ⟨releases, events_eq, recorded⟩ := body.read_events .caller
  refine ⟨⟨releases, later, by rw [events_eq], recorded, untouched⟩, ?_, ?_⟩
  · intro failure unread
    rw [read] at unread
    cases unread
  · intro _ _
    rw [List.filter_append, body.read_makes_no_call]
    exact calls

/-- Reading the body that is set is observed and leaves answers and replies alone. -/
theorem reading_recorded {result : Except Failure Octets}
    (reading : finish (readBody .caller body) before = (after, result)) :
    after.trace = before.trace ++ (body.toContent .caller).read.events ∧
      (∀ number, after.answers number = before.answers number) ∧ after.origin = before.origin ∧
      (body.toContent .caller).read.result = result := by
  rw [finish_readBody] at reading
  obtain ⟨rfl, rfl⟩ := Prod.mk.inj reading
  exact ⟨rfl, fun _ => rfl, rfl, rfl⟩

/-- A request without a first response makes one call or two. -/
theorem followsProtocol_of_failed {failure : Failure}
    (opening : Opening (toOrigin line) (.scripted number name) line headers body before after
      (.error failure)) :
    FollowsProtocol name line headers body (before.answers number) before.origin.pending
      (after.trace.drop before.trace.length) (.error failure) := by
  cases opening with
  | unread reading =>
      obtain ⟨trace_eq, -, -, unread⟩ := reading_recorded reading
      exact followsProtocol_of_unread unread trace_eq
  | unasked reading asking =>
      obtain ⟨read_trace, read_answers, -, read⟩ := reading_recorded reading
      obtain ⟨asked_trace, -, unanswered⟩ := asking_recorded asking
      rw [read_answers] at unanswered
      rw [read_trace, List.append_assoc] at asked_trace
      refine followsProtocol_of_later read asked_trace (by simp [Event.owner?]) ?_
      exact .of_failing_authenticator unanswered
  | @unsent _ _ _ _ first _ reading asking sending =>
      obtain ⟨read_trace, read_answers, read_origin, read⟩ := reading_recorded reading
      obtain ⟨asked_trace, asked_origin, answered⟩ := asking_recorded asking
      obtain ⟨sent_trace, -, unreplied⟩ := sending_recorded sending
      change ∀ status headers body hook, _ at unreplied
      simp only [Network.trace_observe, asked_trace, read_trace, List.append_assoc] at sent_trace
      refine followsProtocol_of_later read sent_trace (by simp [Event.owner?]) ?_
      have first_answer : (before.answers number)[0]? = some (.headers first) := by
        rw [← read_answers, answered]
        rfl
      rw [← Body.read_data read, ← read_origin, ← asked_origin]
      exact .of_no_challenge first_answer (unreplied unauthorized)

/-- The first response answers a request with the first answer of the authenticator and the data of
the body. -/
theorem opening_recorded
    (opening : Opening (toOrigin line) (.scripted number name) line headers body before after
      (.ok (data, response))) :
    (body.toContent .caller).read.result = .ok data ∧ data = body.data ∧
      ∃ first content hook,
        before.answers number = .headers first :: after.answers number ∧
        before.origin.pending =
          .response response.status response.headers content hook :: after.origin.pending ∧
        response.body = Body.contentOver (.reply .origin before.origin.served) content hook ∧
        after.trace = before.trace ++ ((body.toContent .caller).read.events ++
          [.authenticate name .empty, .log (.sending line first.size),
            .request .origin line (headers ++ first) body.data]) := by
  cases opening with
  | @answered _ _ _ _ first _ reading asking sending =>
      obtain ⟨read_trace, read_answers, read_origin, read⟩ := reading_recorded reading
      obtain ⟨asked_trace, asked_origin, answered⟩ := asking_recorded asking
      obtain ⟨sent_trace, sent_answers, content, hook, replied, fresh⟩ := sending_recorded sending
      have data_eq := Body.read_data read
      simp only [Network.trace_observe, asked_trace, read_trace] at sent_trace
      change _ = Reply.response _ _ _ _ :: _ at replied
      refine ⟨read, data_eq, first, content, hook, ?_, ?_, ?_, ?_⟩
      · rw [← read_answers, answered, sent_answers, Network.answers_observe]
      · rw [← replied, ← read_origin, ← asked_origin]
        rfl
      · rw [fresh, ← read_origin, ← asked_origin]
        rfl
      · simp [sent_trace, data_eq]

/-- After a challenge the authenticator is asked with the headers of the challenge.  The request is
sent once more with its answer, if that is not empty and the challenge can be released. -/
theorem meeting_recorded {origin : Nat} {content : Body} {hook : Option Hook}
    (fresh : response.body = Body.contentOver (.reply .origin origin) content hook)
    (meeting : Meeting (toOrigin line) (.scripted number name) line headers data response before
      after result) :
    ∃ rest, after.trace = before.trace ++ rest ∧
      (∀ event ∈ rest, event.owner? ≠ some .caller) ∧
      ((rest.filter Event.isCall = [.authenticate name response.headers] ∧
          ∀ second, (before.answers number)[0]? = some (.headers second) →
            second.isEmpty = false → hook = some .failing) ∨
        ∃ second, (before.answers number)[0]? = some (.headers second) ∧
          second.isEmpty = false ∧ hook ≠ some .failing ∧
          rest.filter Event.isCall =
            [.authenticate name response.headers,
              .request .origin line (headers ++ second) data]) := by
  cases meeting with
  | unmet asking releasing cause =>
      obtain ⟨asked_trace, -, unanswered⟩ := asking_recorded asking
      obtain ⟨⟨closing, rest_eq, no_call, untouched⟩, -⟩ := releasing_recorded fresh releasing
      rw [asked_trace, List.append_assoc] at rest_eq
      refine ⟨_, rest_eq, by simpa [Event.owner?] using untouched, .inl ⟨?_, ?_⟩⟩
      · rw [List.filter_append, no_call]
        rfl
      · exact fun second met => absurd met (unanswered second)
  | declined asking nothing =>
      obtain ⟨asked_trace, -, declined⟩ := asking_recorded asking
      rw [Network.trace_observe, asked_trace, List.append_assoc]
      refine ⟨_, rfl, by simp [Event.owner?], .inl ⟨rfl, ?_⟩⟩
      intro second met something
      rw [declined] at met
      cases met
      rw [nothing] at something
      cases something
  | unreleased asking something releasing =>
      obtain ⟨asked_trace, -, -⟩ := asking_recorded asking
      obtain ⟨⟨closing, rest_eq, no_call, untouched⟩, failing⟩ := releasing_recorded fresh releasing
      rw [Network.trace_observe, asked_trace, List.append_assoc, List.append_assoc] at rest_eq
      refine ⟨_, rest_eq, by simpa [Event.owner?] using untouched, .inl ⟨?_, ?_⟩⟩
      · simp only [List.filter_append, no_call]
        rfl
      · -- The release failed, which only a release that is set to fail does.
        intro second _ _
        by_cases failed : hook = some .failing
        · exact failed
        · cases failing.mpr failed
  | @retried _ _ _ second _ asking something releasing sending =>
      obtain ⟨asked_trace, -, met⟩ := asking_recorded asking
      obtain ⟨⟨closing, closing_trace, no_call, untouched⟩, released⟩ :=
        releasing_recorded fresh releasing
      obtain ⟨rest_eq, -⟩ := sending_recorded sending
      rw [closing_trace, Network.trace_observe, asked_trace, List.append_assoc,
        List.append_assoc, List.append_assoc] at rest_eq
      refine ⟨_, rest_eq, ?_, .inr ⟨second, ?_, something, released.mp rfl, ?_⟩⟩
      · intro event member
        simp only [List.mem_append, List.mem_singleton] at member
        rcases member with rfl | rfl | closed | rfl
        · simp [Event.owner?]
        · simp [Event.owner?]
        · exact untouched event closed
        · simp [Event.owner?]
      · rw [met]
        rfl
      · simp only [List.filter_append, no_call]
        rfl

/-- A request that was answered by a challenge is judged by what comes after the challenge. -/
theorem followsProtocol_of_challenge {first : Headers} {middle : Network} {rest : List Event}
    (read : (body.toContent .caller).read.result = .ok data)
    (opening_eq : middle.trace = before.trace ++ ((body.toContent .caller).read.events ++
      [.authenticate name .empty, .log (.sending line first.size),
        .request .origin line (headers ++ first) body.data]))
    (rest_eq : after.trace = middle.trace ++ rest)
    (untouched : ∀ event ∈ rest, event.owner? ≠ some .caller)
    (calls : CallsFollow name line headers body.data answers replies
      (.authenticate name .empty :: .request .origin line (headers ++ first) body.data ::
        rest.filter Event.isCall)) :
    FollowsProtocol name line headers body answers replies
      (after.trace.drop before.trace.length) result := by
  rw [opening_eq, List.append_assoc, List.append_assoc] at rest_eq
  refine followsProtocol_of_later read rest_eq ?_ ?_
  · intro event member
    rcases List.mem_append.mp member with opening | later
    · simp only [List.mem_cons, List.not_mem_nil, or_false] at opening
      rcases opening with rfl | rfl | rfl <;> simp [Event.owner?]
    · exact untouched event later
  · rw [List.filter_append]
    exact calls

end Recorded

/-- Every request with credentials follows the retry protocol. -/
theorem respond_followsProtocol (number : Nat) (name : Text) (line : Option Text)
    (headers : Headers) (body : Body) (network : Network) :
    let call := (recorded number name).respond line headers body
    FollowsProtocol name line headers body (network.answers number) network.origin.pending
      (observed call network) (result call network) := by
  intro call
  have course := course_of_authenticate (toOrigin line) (.scripted number name) line headers body
    network
  change Course _ _ _ _ _ _ (final call network) (result call network) at course
  -- The course fixes the network at the end, so that the trace is read off it case by case.
  rw [observed]
  generalize final call network = after at course
  generalize result call network = outcome at course
  cases course with
  | failed opening => exact followsProtocol_of_failed opening
  | accepted opening accepted =>
      obtain ⟨read, -, first, content, hook, answers_eq, pending_eq, -, trace_eq⟩ :=
        opening_recorded opening
      refine followsProtocol_of_later read trace_eq (by simp [Event.owner?]) ?_
      refine .of_no_challenge (by rw [answers_eq]; rfl) ?_
      intro received other other_hook reply
      rw [pending_eq] at reply
      have status_eq := (Reply.response.inj (Option.some.inj reply)).1
      exact accepted status_eq
  | challenged opening challenged meeting =>
      obtain ⟨read, data_eq, first, content, hook, answers_eq, pending_eq, fresh, trace_eq⟩ :=
        opening_recorded opening
      have answered : (network.answers number)[0]? = some (.headers first) := by
        rw [answers_eq]
        rfl
      rw [challenged] at pending_eq
      have challenge := congrArg (·[0]?) pending_eq
      obtain ⟨rest, rest_eq, untouched, met⟩ := meeting_recorded fresh meeting
      refine followsProtocol_of_challenge read trace_eq rest_eq untouched ?_
      rcases met with ⟨calls_eq, unmet⟩ | ⟨second, met, something, released, calls_eq⟩
      · rw [calls_eq]
        refine .of_unmet_challenge answered challenge ?_
        rw [answers_eq]
        exact unmet
      · rw [calls_eq, data_eq]
        exact .of_met_challenge answered challenge (by rw [answers_eq]; exact met) something
          released

end Service
end HttpAuth
