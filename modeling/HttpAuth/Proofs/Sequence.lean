import HttpAuth.Proofs.Bearer

/-!
# Requests one after another

Requests are made of one service, each on the network as the requests before have left it.  A call
depends on the earlier ones only through the replies that they have spent.  So a token serves one
call: it comes of a reply that this call has taken, and no other call sees it.
-/

namespace HttpAuth

open Run Network

/-- A request that a caller makes. -/
structure Request where
  /-- The request line. -/
  line : Option Text
  /-- The header fields. -/
  headers : Headers
  /-- The body. -/
  body : Body

namespace Request

/-- The body can be read, and this is what is read. -/
def Reads (request : Request) (data : Octets) : Prop :=
  (request.body.toContent .caller).read.result = .ok data

/-- The request as it reaches the origin, with added headers. -/
def attempt (request : Request) (data : Octets) (added : Headers) : Event :=
  .request .origin request.line (request.headers ++ added) data

end Request

/-- A request that was made of a service. -/
structure Call where
  /-- The request. -/
  request : Request
  /-- What was observed. -/
  events : List Event
  /-- The response, or the failure. -/
  result : Except Failure Response

/-- The contacts that were made. -/
def Call.contacts (call : Call) : List Event :=
  call.events.filter Event.isContact

namespace Service

/-- A request as it is made. -/
def call (service : Service) (network : Network) (request : Request) : Call :=
  { request
    events := observed (service.respond request.line request.headers request.body) network
    result := result (service.respond request.line request.headers request.body) network }

/-- The network after a request. -/
def leave (service : Service) (network : Network) (request : Request) : Network :=
  final (service.respond request.line request.headers request.body) network

/-- Requests that are made one after another. -/
def sequence (service : Service) (network : Network) : List Request → List Call
  | [] => []
  | request :: others =>
      service.call network request :: service.sequence (service.leave network request) others

variable (service : Service) (network : Network)

theorem requests_sequence (requests : List Request) :
    (service.sequence network requests).map Call.request = requests := by
  induction requests generalizing network with
  | nil => rfl
  | cons request others induction => exact congrArg _ (induction (service.leave network request))

/-- A call depends on nothing that was observed before. -/
theorem call_of_untraced {network other : Network} (same : network.untraced = other.untraced)
    (request : Request) : service.call network request = service.call other request := by
  have blind := service.blind_respond request.line request.headers request.body
  obtain ⟨observed_eq, result_eq⟩ := blind.of_untraced same
  rw [call, call, observed_eq, result_eq]

/-- Calls that spend replies leave the rest of the network to the next one. -/
theorem call_of_sequence
    (spends : ∀ network request,
      Spends network (service.leave network request) (service.call network request).contacts)
    {requests : List Request} {earlier later : List Call} {call : Call}
    (split : service.sequence network requests = earlier ++ call :: later) :
    call = service.call (network.spent (earlier.flatMap Call.events)) call.request := by
  induction requests generalizing network earlier with
  | nil => cases earlier <;> cases split
  | cons request others induction =>
      cases earlier with
      | nil =>
          obtain ⟨rfl, -⟩ := List.cons.inj split
          have same : network.untraced = (network.spent []).untraced := by
            rw [spent_nil]
            rfl
          exact service.call_of_untraced same request
      | cons first earlier =>
          obtain ⟨rfl, rest⟩ := List.cons.inj split
          have left := (spends network request).rest
          have same : (service.leave network request).untraced =
              (network.spent (service.call network request).events).untraced := by
            rw [left, Call.contacts, spent_contacts]
            rfl
          rw [List.flatMap_cons, spent_append, ← spent_of_untraced same]
          exact induction (service.leave network request) rest

/-- The token service that a first response names as a challenge, if it is a usable one. -/
def challenged? : Except Failure Response → Option RealmTarget
  | .ok response =>
      if response.status = unauthorized then Authenticator.target? response.headers else none
  | .error _ => none

/-- The requests after the exchange that is made for a challenge, if one is made. -/
inductive Retries (format : TokenFormat) (given : Headers) (left : Network)
    (attempt : Headers → Event) : Option RealmTarget → List Event → Prop where
  /-- The call has ended. -/
  | ended {target} : Retries format given left attempt target []
  /-- After an exchange, the token is that of the next reply of the token service. -/
  | fresh {target response token}
      (reply : left.reply .realm Body.contentOver = .ok response)
      (found : Authenticator.tokenIn format response.body = .ok token) :
      Retries format given left attempt (some target)
        [attempt ⟨[("Authorization".toList, "Bearer ".toList ++ token)]⟩]
  /-- Without one, the headers of the fallback are sent again. -/
  | kept : Retries format given left attempt none [attempt given]

/-- What a call asks for on a network with these replies left: nothing if its body cannot be read,
or else the request with the headers of the fallback, an exchange if the first response is a usable
challenge, and the request with a token of its own. -/
structure Fresh (format : TokenFormat) (given credentials : Headers) (left : Network)
    (call : Call) : Prop where
  /-- A body that cannot be read makes no contact. -/
  unread : (∀ data, ¬call.request.Reads data) → call.contacts = []
  /-- A body that was read is sent with every request. -/
  read : ∀ data, call.request.Reads data →
    ∃ retry, call.contacts = call.request.attempt data given ::
        (Authenticator.exchange .recorded credentials
          (challenged? (left.reply .origin Body.contentOver)) ++ retry) ∧
      Retries format given left (call.request.attempt data)
        (challenged? (left.reply .origin Body.contentOver)) retry
  /-- The token service is asked once for a usable challenge, and not at all otherwise. -/
  exchanged : ∀ data, call.request.Reads data →
    requested .realm call.contacts =
      if (challenged? (left.reply .origin Body.contentOver)).isSome then 1 else 0

/-- The service of the origin with a Bearer authenticator. -/
def challengeable (format : TokenFormat) (fallback realmAuth : Authenticator) : Service :=
  .authenticated (.direct (.party .origin)) (.bearer .recorded format fallback realmAuth)

section Challengeable

variable {format : TokenFormat} {fallback realmAuth : Authenticator} {given credentials : Headers}

theorem Way.fresh {request : Headers → Event} {headers : Headers} {network : Network}
    {contacts : List Event} {outcome : Except Failure Response}
    (elsewhere : requested .realm [request (headers ++ given)] = 0)
    (way : Way .recorded format given credentials request .origin Body.contentOver headers network
      contacts outcome) :
    ∃ retry, contacts = request (headers ++ given) ::
        (Authenticator.exchange .recorded credentials
          (challenged? (network.reply .origin Body.contentOver)) ++ retry) ∧
      Retries format given network (fun added => request (headers ++ added))
        (challenged? (network.reply .origin Body.contentOver)) retry := by
  have of_challenge {response : Response} {exchange : List Event} {answer : Except Failure Headers}
      (reply : network.reply .origin Body.contentOver = .ok response)
      (challenged : response.status = unauthorized)
      (answers : Authenticator.Answers .recorded format given credentials
        (network.spent [request (headers ++ given)]) response.headers exchange answer) :
      challenged? (network.reply .origin Body.contentOver) =
          Authenticator.target? response.headers ∧
        exchange = Authenticator.exchange .recorded credentials
          (challenged? (network.reply .origin Body.contentOver)) := by
    have target_eq : challenged? (network.reply .origin Body.contentOver) =
        Authenticator.target? response.headers := by
      rw [reply, challenged?, if_pos challenged]
    exact ⟨target_eq, by rw [target_eq, answers.contacts_eq]⟩
  cases way with
  | lost reply =>
      rw [reply]
      exact ⟨[], rfl, .ended⟩
  | accepted reply accepted =>
      rw [reply, challenged?, if_neg accepted]
      exact ⟨[], rfl, .ended⟩
  | unmet reply challenged answers =>
      obtain ⟨-, rfl⟩ := of_challenge reply challenged answers
      exact ⟨[], by rw [List.append_nil], .ended⟩
  | declined reply challenged answers nothing =>
      obtain ⟨-, rfl⟩ := of_challenge reply challenged answers
      exact ⟨[], by rw [List.append_nil], .ended⟩
  | unreleased reply challenged answers =>
      obtain ⟨-, rfl⟩ := of_challenge reply challenged answers
      exact ⟨[], by rw [List.append_nil], .ended⟩
  | retried reply challenged answers something =>
      obtain ⟨target_eq, rfl⟩ := of_challenge reply challenged answers
      refine ⟨_, rfl, ?_⟩
      rw [target_eq]
      rcases answers.answer_cases with
        ⟨refused, rfl⟩ | ⟨target, token_reply, token, accepted, given_reply, found, rfl⟩
      · rw [refused]
        exact .kept
      · rw [accepted]
        refine .fresh ?_ found
        rw [← reply_spent network elsewhere]
        exact given_reply

theorem requested_exchange (credentials : Headers) (target? : Option RealmTarget) :
    requested .realm (Authenticator.exchange .recorded credentials target?) =
      if target?.isSome then 1 else 0 := by
  cases target? <;> rfl

/-- The token service is asked by exchanges alone. -/
theorem Retries.requested_eq {left : Network} {attempt : Headers → Event}
    {target? : Option RealmTarget} {retry : List Event}
    (elsewhere : ∀ added, requested .realm [attempt added] = 0)
    (retries : Retries format given left attempt target? retry) :
    requested .realm retry = 0 := by
  cases retries with
  | ended => rfl
  | fresh reply found => exact elsewhere _
  | kept => exact elsewhere _

/-- A call spends the replies to its requests and is fresh. -/
theorem fresh_call (fallback_answer : ∀ headers, fallback.answer headers = pure given)
    (realm_answer : realmAuth.answer .empty = pure credentials) (network : Network)
    (request : Request) :
    let service := challengeable format fallback realmAuth
    Spends network (service.leave network request) (service.call network request).contacts ∧
      Fresh format given credentials network (service.call network request) := by
  intro service
  have goes (data : Octets) (read : request.Reads data) : ∃ contacts,
      Spends network (service.leave network request) contacts ∧
        Way .recorded format given credentials
          (fun added => .request .origin request.line added data) .origin Body.contentOver
          request.headers network contacts (service.call network request).result :=
    way_of_authenticate (sends_of_requests fun headers => rfl) fallback_answer realm_answer read
      network
  cases read : (request.body.toContent .caller).read.result with
  | error failure =>
      have spends : Spends network (service.leave network request) [] := by
        have finish_eq :
            finish (service.respond request.line request.headers request.body) network =
              (network.observe (request.body.toContent .caller).read.events, .error failure) := by
          simp only [service, challengeable, respond, authenticate, finish_bind, finish_readBody,
            read]
        rw [leave, final_eq, finish_eq]
        exact .of_read _
      have contacts_eq : (service.call network request).contacts = [] := spends.contacts_run
      refine ⟨by rwa [contacts_eq], fun _ => contacts_eq, fun data readable => ?_,
        fun data readable => ?_⟩
      all_goals cases read.symm.trans readable
  | ok data =>
      obtain ⟨contacts, spends, way⟩ := goes data read
      have contacts_eq : (service.call network request).contacts = contacts := spends.contacts_run
      obtain ⟨retry, parts, retries⟩ := way.fresh rfl
      refine ⟨by rwa [contacts_eq], fun unread => absurd read (unread data), ?_, ?_⟩
      · intro other other_read
        obtain rfl := Except.ok.inj (read.symm.trans other_read)
        rw [contacts_eq]
        exact ⟨retry, parts, retries⟩
      · intro other other_read
        rw [contacts_eq, parts, requested, List.countP_cons_of_neg Bool.false_ne_true,
          List.countP_append, ← requested, ← requested, requested_exchange,
          retries.requested_eq fun added => rfl, Nat.add_zero]

end Challengeable

/-- Tokens are neither kept nor mixed up.  Let requests be made one after another of the origin with
a Bearer authenticator whose fallback and whose authenticator for the token service always give the
same headers.  Each call goes as it would alone, on the network with the replies spent that went to
the requests of the calls before.  Its first request has the headers of the fallback, never a token;
it makes one exchange if its first response is a usable challenge, and none otherwise; and after an
exchange the request is made again with the token that this exchange has given, and no other header
added. -/
theorem sequence_fetches_fresh_tokens (format : TokenFormat) {fallback realmAuth : Authenticator}
    (plain : fallback.Plain) (realm_plain : realmAuth.Plain) (network : Network)
    (requests : List Request) :
    let service := challengeable format fallback realmAuth
    ∃ given credentials, (∀ headers, fallback.answer headers = pure given) ∧
      (∀ headers, realmAuth.answer headers = pure credentials) ∧
      (service.sequence network requests).map Call.request = requests ∧
      ∀ earlier call later, service.sequence network requests = earlier ++ call :: later →
        let left := network.spent (earlier.flatMap Call.events)
        call = service.call left call.request ∧ Fresh format given credentials left call := by
  intro service
  obtain ⟨given, fallback_answer⟩ := plain.answer_eq
  obtain ⟨credentials, realm_answer⟩ := realm_plain.answer_eq
  have each (network : Network) (request : Request) :
      Spends network (service.leave network request) (service.call network request).contacts ∧
        Fresh format given credentials network (service.call network request) :=
    fresh_call fallback_answer (realm_answer .empty) network request
  refine ⟨given, credentials, fallback_answer, realm_answer,
    service.requests_sequence network requests, ?_⟩
  intro earlier call later split left
  have same := service.call_of_sequence network (fun network request => (each network request).1)
    split
  refine ⟨same, ?_⟩
  rw [same]
  exact (each left call.request).2

/-- Both requests fetch a token, and the second one is sent with its own. -/
theorem sequence_fetches_two_tokens :
    let challenge : Headers :=
      .single "WWW-Authenticate".toList "Bearer realm=\"http://h/t\"".toList
    let answer (status : Int) (headers : Headers) (text : String) : Reply :=
      .response status headers (.bytes (Utf8.encode text.toList)) none
    let network : Network :=
      { origin :=
          { pending := [answer 401 challenge "", answer 200 .empty "", answer 401 challenge "",
              answer 200 .empty ""] }
        realm := { pending := [answer 200 .empty "token=a", answer 200 .empty "token=b"] } }
    let request : Request := ⟨some "GET / HTTP/1.1".toList, .empty, .none⟩
    let format : TokenFormat := .form "token".toList
    let authorization (value : String) : Headers := ⟨[("Authorization".toList, value.toList)]⟩
    let calls :=
      (challengeable format .anonymous (.basic ['u'] ['p'])).sequence network [request, request]
    calls.map (fun call => call.contacts.filter (Event.isRequestTo .origin)) =
        [[request.attempt [] .empty, request.attempt [] (authorization "Bearer a")],
          [request.attempt [] .empty, request.attempt [] (authorization "Bearer b")]] ∧
      ∃ given credentials, ∀ earlier call later, calls = earlier ++ call :: later →
        Fresh format given credentials (network.spent (earlier.flatMap Call.events)) call := by
  intro challenge answer network request format authorization calls
  have plain : Authenticator.anonymous.Plain := trivial
  have realm_plain : (Authenticator.basic ['u'] ['p']).Plain := trivial
  obtain ⟨given, credentials, -, -, -, each⟩ :=
    sequence_fetches_fresh_tokens format plain realm_plain network [request, request]
  exact ⟨by decide +kernel, given, credentials, fun earlier call later split =>
    (each earlier call later split).2⟩

end Service
end HttpAuth
