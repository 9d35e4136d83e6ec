import HttpAuth.Proofs.Secrets

/-!
# The log keeps secrets

What is logged during a request with credentials does not depend on passwords, on the values of
headers, on the content of bodies and on tokens.  Of the reply to a request for a token it depends
only on whether there is a token in it, or why there is none.
-/

namespace HttpAuth

open Run

/-- The record that is logged. -/
def Event.record? : Event → Option LogRecord
  | .log record => some record
  | _ => none

/-- What is logged during a run. -/
def Run.logged {α : Type} (action : Run α) (network : Network) : List LogRecord :=
  (observed action network).filterMap Event.record?

/-- Someone who reads the log. -/
def Observer.ofLog : Observer where
  sees := Event.isLog
  sees_no_body := by
    intro event about_body
    cases event with
    | chunk | close => rfl
    | _ => cases about_body

theorem Observer.filterMap_record_eq (events : List Event) :
    events.filterMap Event.record? = (ofLog.view events).filterMap Event.record? := by
  rw [view, List.filterMap_filter]
  congr 1
  funext event
  cases event <;> rfl

/-- Requests are not in the log. -/
theorem Observer.unseen_ofLog {peer : Peer} (event : Event) (request : event.isRequestTo peer) :
    ofLog.sees event = false := by
  cases event with
  | request | send => rfl
  | _ => cases request

/-! ## Networks without bodies -/

/-- A reply without its body. -/
def Reply.outline : Reply → Reply
  | .response status headers _ hook => .response status headers .none hook
  | .failure reason => .failure reason

/-- Replies without their bodies. -/
def Script.outline (script : Script) : Script :=
  { script with pending := script.pending.map Reply.outline }

theorem Script.outline_eq_iff {script other : Script} :
    script.outline = other.outline ↔
      script.served = other.served ∧
        script.pending.map Reply.outline = other.pending.map Reply.outline := by
  rw [outline, outline, Script.mk.injEq]

/-- The replies of all parties without their bodies. -/
def Network.outline (network : Network) : Peer → Script :=
  fun peer => (network.script peer).outline

section Outline

variable {network other : Network}

@[simp]
theorem Network.outline_observe (events : List Event) :
    (network.observe events).outline = network.outline := by
  funext peer
  rw [outline, outline, script_observe]

theorem Network.Ahead.outline {after other_after : Network}
    (ahead : Ahead network other after other_after) (same : network.outline = other.outline) :
    after.outline = other_after.outline := by
  obtain ⟨events, others, rfl, rfl⟩ := ahead
  simpa using same

theorem Network.script_served (peer turn : Peer) (pending : List Reply) :
    (network.served turn pending).script peer =
      if peer = turn then { served := (network.script peer).served + 1, pending }
      else network.script peer := by
  cases peer <;> cases turn <;> rfl

theorem Network.outline_served {pending other_pending : List Reply} (turn : Peer)
    (same : network.outline = other.outline)
    (rest : pending.map Reply.outline = other_pending.map Reply.outline) :
    (network.served turn pending).outline = (other.served turn other_pending).outline := by
  funext peer
  have scripts : (network.script peer).outline = (other.script peer).outline :=
    congrFun same peer
  rw [outline, outline, script_served, script_served]
  split
  · rw [Script.outline_eq_iff, (Script.outline_eq_iff.mp scripts).1]
    exact ⟨rfl, rest⟩
  · exact scripts

end Outline

/-- Two responses of a party whose replies differ in bodies alone, and the networks after them. -/
inductive ReceivedAlike (peer : Peer) (content : Owner → Body → Option Hook → Content)
    (before other_before : Network) : Response → Response → Network → Network → Prop where
  /-- The next replies are responses. -/
  | intro {status headers hook body other_body pending other_pending}
      (reply : (before.script peer).pending = .response status headers body hook :: pending)
      (other_reply : (other_before.script peer).pending =
        .response status headers other_body hook :: other_pending)
      (same : (before.served peer pending).outline =
        (other_before.served peer other_pending).outline) :
      ReceivedAlike peer content before other_before
        { status, headers
          body := content (.reply peer (before.script peer).served) body hook }
        { status, headers
          body := content (.reply peer (other_before.script peer).served) other_body hook }
        (before.served peer pending) (other_before.served peer other_pending)

namespace Observer

variable {observer : Observer} {before other_before : Network}

/-- Parties whose replies differ in bodies alone give such replies. -/
theorem Confuses.receive_outlined (peer : Peer) (content : Owner → Body → Option Hook → Content)
    (same : before.outline = other_before.outline) :
    observer.Confuses (ReceivedAlike peer content before other_before) (receive peer content)
      (receive peer content) before other_before := by
  have scripts : (before.script peer).outline = (other_before.script peer).outline :=
    congrFun same peer
  obtain ⟨-, replies⟩ := Script.outline_eq_iff.mp scripts
  have received := finish_receive peer content before
  have other_received := finish_receive peer content other_before
  cases pending_eq : (before.script peer).pending with
  | nil =>
      rw [pending_eq] at received replies
      rw [List.map_eq_nil_iff.mp replies.symm] at other_received
      exact .of_finish received other_received (List.append_nil _).symm (List.append_nil _).symm rfl
        .failed
  | cons reply pending =>
      rw [pending_eq] at received replies
      obtain ⟨other_reply, other_pending, other_pending_eq, same_reply, rest⟩ :=
        List.map_eq_cons_iff.mp replies.symm
      rw [other_pending_eq] at other_received
      have served_trace := before.trace_served peer pending
      have other_served_trace := other_before.trace_served peer other_pending
      rw [← List.append_nil before.trace] at served_trace
      rw [← List.append_nil other_before.trace] at other_served_trace
      have outlines := Network.outline_served peer same rest.symm
      cases reply with
      | failure reason =>
          cases other_reply with
          | response => cases same_reply
          | failure =>
              cases same_reply
              exact .of_finish received other_received served_trace other_served_trace rfl .failed
      | response status headers body hook =>
          cases other_reply with
          | failure => cases same_reply
          | response =>
              cases same_reply
              exact .of_finish received other_received served_trace other_served_trace rfl
                (.returned (.intro pending_eq other_pending_eq outlines))

end Observer

/-! ## Tokens -/

namespace Authenticator

/-- The token in a content. -/
def tokenIn (format : TokenFormat) (content : Content) : Except Failure Text := do
  let data ← content.read.result
  (format.token data).mapError .token

/-- Why there is no token in the next reply of a token service, if there is none. -/
def replyFailure? (dialer : Dialer) (format : TokenFormat) (network : Network) : Option Failure :=
  let script := network.script dialer.peer
  match script.pending with
  | .response _ _ body hook :: _ =>
      failure? (tokenIn format (dialer.content (.reply dialer.peer script.served) body hook))
  | _ => none

/-- Why an authenticator gets no token for the challenge in headers, if it asks for one. -/
def answerFailure? (headers : Headers) (network : Network) : Authenticator → Option Failure
  | .bearer dialer format _ _ =>
      match (Challenge.findBearer headers).2 with
      | some challenge =>
          if challenge.target.isOk then replyFailure? dialer format network else none
      | none => none
  | _ => none

/-- Why an authenticator gets no token for the challenge of a server, if there is a challenge and it
asks for a token. -/
def tokenFailure? (authenticator : Authenticator) (endpoint : Endpoint) (network : Network) :
    Option Failure :=
  match (network.script endpoint.peer).pending with
  | .response status headers _ _ :: pending =>
      if status = Service.unauthorized then
        authenticator.answerFailure? headers (network.served endpoint.peer pending)
      else none
  | _ => none

/-- Reading a token logs a status that is no success. -/
theorem finish_readToken (format : TokenFormat) (target : RealmTarget) (response : Response)
    (network : Network) :
    finish (readToken format target response) network =
      (network.observe
          ((if isSuccess response.status then []
            else [.log (.realmStatus target.host response.status)]) ++
            response.body.read.events),
        (tokenIn format response.body).map bearerHeaders) := by
  have reading (network : Network) :
      finish (do
        let content ← Run.ofOutcome response.body.read
        let token ← Run.ofExcept .token (format.token content)
        return bearerHeaders token) network =
      (network.observe response.body.read.events,
        (tokenIn format response.body).map bearerHeaders) := by
    simp only [finish_bind, finish_ofOutcome, finish_ofExcept, finish_pure, tokenIn]
    cases response.body.read.result with
    | error failure => rfl
    | ok data =>
        dsimp only [bind, Except.bind]
        cases format.token data <;> rfl
  rw [readToken]
  cases isSuccess response.status with
  | true => exact reading network
  | false =>
      rw [Network.observe_append]
      exact reading _

theorem replyFailure?_observe (dialer : Dialer) (format : TokenFormat) (network : Network)
    (events : List Event) :
    replyFailure? dialer format (network.observe events) = replyFailure? dialer format network := by
  rw [replyFailure?, replyFailure?, Network.script_observe]

theorem answerFailure?_observe (authenticator : Authenticator) (headers : Headers)
    (network : Network) (events : List Event) :
    authenticator.answerFailure? headers (network.observe events) =
      authenticator.answerFailure? headers network := by
  cases authenticator with
  | bearer => simp only [answerFailure?, replyFailure?_observe]
  | _ => rfl

theorem answerFailure?_of_target {dialer : Dialer} {format : TokenFormat}
    {fallback realmAuth : Authenticator} {headers : Headers} {challenge : Challenge}
    {target : RealmTarget} (search : (Challenge.findBearer headers).2 = some challenge)
    (accepted : challenge.target = .ok target) (network : Network) :
    (bearer dialer format fallback realmAuth).answerFailure? headers network =
      replyFailure? dialer format network := by
  simp only [answerFailure?, search, accepted, Except.isOk, Except.toBool, if_true]

theorem tokenFailure?_observe (authenticator : Authenticator) (endpoint : Endpoint)
    (network : Network) (events : List Event) :
    authenticator.tokenFailure? endpoint (network.observe events) =
      authenticator.tokenFailure? endpoint network := by
  have served (pending : List Reply) : (network.observe events).served endpoint.peer pending =
      (network.served endpoint.peer pending).observe events := by
    cases endpoint.peer <;> rfl
  simp only [tokenFailure?, Network.script_observe, served, answerFailure?_observe]

variable {observer : Observer} {before other_before : Network}

/-- A token makes one header. -/
theorem size_of_map_bearerHeaders {outcome : Except Failure Text} {given : Headers}
    (ended : outcome.map bearerHeaders = .ok given) : given.size = 1 := by
  cases outcome with
  | error failure => cases ended
  | ok token =>
      cases ended
      rfl

/-- Reading a token looks the same when both find one or fail for the same reason. -/
theorem confuses_readToken {format : TokenFormat} (target : RealmTarget)
    {response other_response : Response} (status_eq : response.status = other_response.status)
    (same : failure? (tokenIn format response.body) =
      failure? (tokenIn format other_response.body)) :
    observer.Confuses
      (fun given other_given after other_after => given.size = other_given.size ∧
        Network.Ahead before other_before after other_after)
      (readToken format target response) (readToken format target other_response) before
      other_before := by
  refine .of_finish (finish_readToken format target response before)
    (finish_readToken format target other_response other_before) rfl rfl ?_ ?_
  · rw [status_eq, observer.view_append, observer.view_append, observer.view_read,
      observer.view_read]
  · have same_map : failure? ((tokenIn format response.body).map bearerHeaders) =
        failure? ((tokenIn format other_response.body).map bearerHeaders) := by
      rw [failure?_map, failure?_map, same]
    refine .of_failure? same_map fun given other_given ended other_ended => ⟨?_, _, _, rfl, rfl⟩
    rw [size_of_map_bearerHeaders ended, size_of_map_bearerHeaders other_ended]

section Outlined

variable {dialer : Dialer} {format : TokenFormat} {authenticator other : Authenticator}

/-- The log does not tell exchanges apart that differ in their credentials and tokens. -/
theorem confuses_fetch_outlined (target : RealmTarget) (same : authenticator.SameButSecrets other)
    (outlines : before.outline = other_before.outline)
    (replies : replyFailure? dialer format before = replyFailure? dialer format other_before) :
    Observer.ofLog.Confuses
      (fun given other_given after other_after =>
        given.size = other_given.size ∧ after.outline = other_after.outline)
      (fetch dialer format (authenticator.answer .empty) target)
      (fetch dialer format (other.answer .empty) target) before other_before := by
  let met (response other_response : Response) (after other_after : Network) : Prop :=
    response.status = other_response.status ∧
      failure? (tokenIn format response.body) = failure? (tokenIn format other_response.body) ∧
      after.outline = other_after.outline
  have lasting : Endpoint.Lasting met :=
    { status_eq := And.left
      observe := by simp [met] }
  refine confuses_fetch target ?_ Observer.unseen_ofLog lasting ?_ ?_
  · intro _ _
    exact (confuses_answer_of_handsOn handsOn_empty same).mono fun _ _ _ _ => And.right
  · rintro _ _ ⟨events, others, rfl, rfl⟩
    have still : (before.observe events).outline = (other_before.observe others).outline := by
      simpa using outlines
    refine (Observer.Confuses.receive_outlined dialer.peer dialer.content still).mono ?_
    rintro _ _ _ _ ⟨reply, other_reply, after_eq⟩
    refine ⟨rfl, ?_, after_eq⟩
    rw [← replyFailure?_observe _ _ before events, ← replyFailure?_observe _ _ other_before others,
      replyFailure?, replyFailure?] at replies
    simpa only [reply, other_reply] using replies
  · rintro response other_response _ _ ⟨status_eq, tokens, after_eq⟩
    refine (confuses_readToken target status_eq tokens).mono ?_
    rintro _ _ _ _ ⟨sizes, ahead⟩
    exact ⟨sizes, ahead.outline after_eq⟩

/-- The log does not tell answers apart that differ in credentials and tokens. -/
theorem confuses_answer_outlined (same : authenticator.SameButSecrets other) (headers : Headers)
    (outlines : before.outline = other_before.outline)
    (replies : authenticator.answerFailure? headers before =
      authenticator.answerFailure? headers other_before) :
    Observer.ofLog.Confuses
      (fun given other_given after other_after =>
        given.size = other_given.size ∧ after.outline = other_after.outline)
      (authenticator.answer headers) (other.answer headers) before other_before := by
  cases same with
  | anonymous => exact .pure ⟨rfl, outlines⟩
  | fixed names => exact .pure ⟨Headers.size_eq_of_names names, outlines⟩
  | basic => exact .pure ⟨rfl, outlines⟩
  | bearer fallbacks realmAuths =>
      apply confuses_bearer
      case fetching =>
        rintro challenge target _ _ search accepted ⟨events, others, rfl, rfl⟩
        rw [answerFailure?_of_target search accepted, answerFailure?_of_target search accepted]
          at replies
        apply confuses_fetch_outlined target realmAuths
        · simpa using outlines
        · simpa only [replyFailure?_observe] using replies
      case handing =>
        intro handed _ _ ahead
        refine (confuses_answer_of_handsOn handed fallbacks).mono ?_
        rintro _ _ _ _ ⟨sizes, further⟩
        exact ⟨sizes, further.outline (ahead.outline outlines)⟩

end Outlined
end Authenticator

/-- How the body of a reply is released does not depend on its content. -/
theorem Endpoint.close_content (endpoint : Endpoint) (owner : Owner) (body other_body : Body)
    (hook : Option Hook) :
    (endpoint.content owner body hook).close.result =
      (endpoint.content owner other_body hook).close.result := by
  cases endpoint with
  | party peer =>
      exact (body.contentOver_close owner hook).2.trans
        (other_body.contentOver_close owner hook).2.symm
  | remote secure host port =>
      exact (body.received_close owner).2.trans (other_body.received_close owner).2.symm

namespace Service

/-- What two requests have in common that differ in secrets: the networks but for the bodies of
replies, and why there is no token if there is none. -/
def Stages.outlined (endpoint : Endpoint) (authenticator : Authenticator) : Stages where
  start before other_before := before.outline = other_before.outline ∧
    authenticator.tokenFailure? endpoint before =
      authenticator.tokenFailure? endpoint other_before
  given first second := first.size = second.size
  met response other after other_after := response.status = other.status ∧
    response.headers = other.headers ∧
    response.body.close.result = other.body.close.result ∧
    after.outline = other_after.outline ∧
    (response.status = unauthorized → authenticator.answerFailure? response.headers after =
      authenticator.answerFailure? response.headers other_after)
  later before other_before := before.outline = other_before.outline
  ended _ _ := True
  start_ahead := by
    rintro _ _ _ _ ⟨outlines, tokens⟩ ⟨events, others, rfl, rfl⟩
    simpa [Authenticator.tokenFailure?_observe] using ⟨outlines, tokens⟩
  size_eq := id
  lasting :=
    { status_eq := And.left
      observe := by simp [Authenticator.answerFailure?_observe] }
  closes met := met.2.2.1
  later_ahead same ahead := ahead.outline same
  ended_of_met _ := trivial

/-- The log does not tell requests apart that differ in headers, bodies and the bodies of their
responses. -/
theorem confuses_call_outlined (endpoint : Endpoint) (paths : List Text) (line : Option Text)
    (headers other_headers : Headers) (data other_data : Octets)
    {post : Response → Response → Network → Network → Prop} (lasting : Endpoint.Lasting post)
    {before other_before : Network} (outlines : before.outline = other_before.outline)
    (receiving : ∀ between other_between response other after other_after,
      Network.Ahead before other_before between other_between →
      ReceivedAlike endpoint.peer endpoint.content between other_between response other after
        other_after →
      post response other after other_after) :
    Observer.ofLog.Confuses post
      (((direct endpoint).underAll paths).respond line headers (.bytes data))
      (((direct endpoint).underAll paths).respond line other_headers (.bytes other_data)) before
      other_before := by
  apply confuses_underAll
  intro line _ _ ahead
  have read : Body.ReadsLike (.bytes data) (.bytes other_data) := rfl
  refine endpoint.confuses_respond line _ _ Observer.unseen_ofLog read lasting ?_
  intro _ _ further
  have later := ahead.trans further
  exact (Observer.Confuses.receive_outlined _ _ (later.outline outlines)).mono
    fun _ _ _ _ => receiving _ _ _ _ _ _ later

/-- The first response tells the same of two networks that differ in secrets. -/
theorem met_of_received {endpoint : Endpoint} {authenticator : Authenticator}
    {before other_before after other_after : Network} {response other : Response}
    (received : ReceivedAlike endpoint.peer endpoint.content before other_before response other
      after other_after)
    (tokens : authenticator.tokenFailure? endpoint before =
      authenticator.tokenFailure? endpoint other_before)
    (served : (before.script endpoint.peer).served = (other_before.script endpoint.peer).served) :
    (Stages.outlined endpoint authenticator).met response other after other_after := by
  cases received with
  | @intro status headers hook body other_body _ _ reply other_reply same =>
      refine ⟨rfl, rfl, ?_, same, ?_⟩
      · rw [served]
        exact endpoint.close_content _ body other_body hook
      · intro challenged
        change status = unauthorized at challenged
        simpa [Authenticator.tokenFailure?, reply, other_reply, challenged] using tokens

/-- The log of a request does not tell secrets: not the user names, passwords and values of headers
that differ between two authenticators, the headers and bodies of the request, the bodies of
responses, and the tokens.  The records are the same, and so are their levels and wordings. -/
theorem respond_logs_no_secrets (endpoint : Endpoint) (paths : List Text) (line : Option Text)
    {authenticator other : Authenticator} (same : authenticator.SameButSecrets other)
    (headers other_headers : Headers) {body other_body : Body} (bodies : body.ReadsLike other_body)
    {network other_network : Network} (outlines : network.outline = other_network.outline)
    (tokens : authenticator.tokenFailure? endpoint network =
      authenticator.tokenFailure? endpoint other_network) :
    let service : Authenticator → Service := .authenticated ((direct endpoint).underAll paths)
    logged ((service authenticator).respond line headers body) network =
      logged ((service other).respond line other_headers other_body) other_network := by
  intro service
  let stages : Stages := .outlined endpoint authenticator
  have confused : Observer.ofLog.Confuses (fun response other _ _ => stages.ended response other)
      ((service authenticator).respond line headers body)
      ((service other).respond line other_headers other_body) network other_network := by
    refine confuses_authenticate stages line bodies ?asking ?sending ?answering ?resending
      ⟨outlines, tokens⟩
    case asking =>
      intro _ _ start
      refine (Authenticator.confuses_answer_of_handsOn Authenticator.handsOn_empty same).mono ?_
      rintro _ _ _ _ ⟨sizes, ahead⟩
      exact ⟨sizes, stages.start_ahead start ahead⟩
    case sending =>
      intro data other_data _ _ _ _ _ _ _ start
      apply confuses_call_outlined endpoint paths line _ _ data other_data stages.lasting start.1
      intro _ _ _ _ _ _ ahead received
      have ready := stages.start_ahead start ahead
      exact met_of_received received ready.2
        (Script.outline_eq_iff.mp (congrFun ready.1 endpoint.peer)).1
    case answering =>
      rintro response other_response _ _ ⟨-, headers_eq, -, outlines, tokens⟩ challenged
      rw [← headers_eq]
      exact Authenticator.confuses_answer_outlined same response.headers outlines
        (tokens challenged)
    case resending =>
      intro data other_data first second _ _ _ _ _ outlines
      have lasting : Endpoint.Lasting (fun response other _ _ => response.status = other.status) :=
        { status_eq := id
          observe := fun _ _ => id }
      have resent := confuses_call_outlined endpoint paths line (headers ++ first)
        (other_headers ++ second) data other_data lasting outlines fun _ _ _ _ _ _ _ received => by
          cases received
          rfl
      exact resent.mono fun _ _ _ _ _ => trivial
  rw [logged, logged, Observer.filterMap_record_eq, confused.view_observed,
    ← Observer.filterMap_record_eq]

/-- Requests with other credentials, another body and another token are logged alike. -/
theorem respond_logs_no_token :
    let challenge : Headers :=
      .single "WWW-Authenticate".toList "Bearer realm=\"http://h/t\"".toList
    let network (token page : String) : Network :=
      { origin :=
          { pending :=
              [.response 401 challenge (.bytes (Utf8.encode page.toList)) none,
                .response 200 .empty .none none] }
        realm := { pending := [.response 200 .empty (.bytes (Utf8.encode token.toList)) none] } }
    let authenticator (password key : String) : Authenticator :=
      .bearer .recorded (.form "token".toList) (.basic "u".toList password.toList)
        (.fixed (.single "Key".toList key.toList))
    let respond (authenticator : Authenticator) : Headers → Body → Run Response :=
      (authenticated ((direct (.party .origin)).underAll []) authenticator).respond
        (some "GET / HTTP/1.1".toList)
    let records :=
      logged (respond (authenticator "1" "2") .empty .none) (network "token=abc" "no")
    records.length = 3 ∧
      records = logged (respond (authenticator "3" "4") .empty (.bytes [5]))
        (network "token=xyz" "never") := by
  intro challenge network authenticator respond records
  have secrets : (authenticator "1" "2").SameButSecrets (authenticator "3" "4") :=
    .bearer .basic (.fixed rfl)
  have outlines : (network "token=abc" "no").outline = (network "token=xyz" "never").outline := by
    funext peer
    cases peer <;> simp [network, Network.outline, Network.script, Script.outline, Reply.outline]
  have tokens : (authenticator "1" "2").tokenFailure? (.party .origin) (network "token=abc" "no") =
      (authenticator "1" "2").tokenFailure? (.party .origin) (network "token=xyz" "never") := by
    decide +kernel
  have bodies : Body.ReadsLike .none (.bytes [5]) := rfl
  have hidden := respond_logs_no_secrets (.party .origin) [] (some "GET / HTTP/1.1".toList) secrets
    .empty .empty bodies outlines tokens
  exact ⟨by decide +kernel, hidden⟩

end Service
end HttpAuth
