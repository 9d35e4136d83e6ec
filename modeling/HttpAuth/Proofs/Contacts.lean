import HttpAuth.Proofs.Body
import HttpAuth.Proofs.Observation

/-!
# Contacts

What a run asks of others: ways to a token service, and requests.  The contacts of a sequence are
those of its parts, in order.  An endpoint makes one request at most, and so does the exchange of a
challenge for a token, whose credentials are those that it is given.
-/

namespace HttpAuth

namespace Event

/-- A request is made. -/
def isRequest : Event → Bool
  | .request .. => true
  | .send .. => true
  | _ => false

/-- A request is made, or a way to a token service is asked for. -/
def isContact : Event → Bool
  | .request .. => true
  | .send .. => true
  | .dial .. => true
  | _ => false

end Event

theorem Content.isContact_of_read {content : Content} {event : Event}
    (member : event ∈ content.read.events) : event.isContact = false := by
  have about_body := owner_of_read member
  cases event with
  | chunk | close => rfl
  | _ => cases about_body

theorem Content.contacts_read (content : Content) :
    content.read.events.filter Event.isContact = [] := by
  apply List.filter_eq_nil_iff.mpr
  intro event member
  simp [content.isContact_of_read member]

theorem Content.contacts_close (content : Content) :
    content.close.events.filter Event.isContact = [] := by
  apply List.filter_eq_nil_iff.mpr
  intro event member
  rw [content.gate.close_events event member]
  exact Bool.false_ne_true

/-- The contacts so far. -/
def Network.contacts (network : Network) : List Event :=
  network.trace.filter Event.isContact

namespace Run

variable {α β : Type} {action : Run α} {next : α → Run β} (network : Network)

/-- The contacts that a run makes. -/
def contacts (action : Run α) (network : Network) : List Event :=
  (observed action network).filter Event.isContact

theorem Blind.contacts_final (blind : Blind action) :
    (final action network).contacts = network.contacts ++ contacts action network := by
  rw [Network.contacts, blind.trace_final, List.filter_append]
  rfl

theorem Blind.contacts_of_finish {after : Network} {outcome : Except Failure α}
    (blind : Blind action) {network : Network} (ended : finish action network = (after, outcome)) :
    after.contacts = network.contacts ++ contacts action network := by
  rw [← blind.contacts_final, final_eq, ended]

theorem Blind.contacts_eq {events : List Event} (blind : Blind action)
    (ended : (final action network).contacts = network.contacts ++ events) :
    contacts action network = events := by
  rw [blind.contacts_final] at ended
  exact List.append_cancel_left ended

theorem Blind.contacts_observe (blind : Blind action) (events : List Event) :
    contacts action (network.observe events) = contacts action network := by
  have finished := blind.finish_observe network events
  apply blind.contacts_eq
  rw [final_eq, finished]
  simp [Network.contacts, contacts, Network.observe]

/-- Events that are observed before a run come before its contacts. -/
theorem contacts_of_observe {other : Run α} {events : List Event} (blind : Blind action)
    (other_blind : Blind other)
    (finish_eq : finish action network = finish other (network.observe events)) :
    contacts action network = events.filter Event.isContact ++ contacts other network := by
  apply blind.contacts_eq
  rw [final_eq, finish_eq, ← final_eq, other_blind.contacts_final, other_blind.contacts_observe,
    ← List.append_assoc]
  simp [Network.contacts]

/-- The contacts of a sequence are those of its parts. -/
theorem contacts_bind (first : Blind action) (second : ∀ value, Blind (next value)) :
    contacts (action >>= next) network = contacts action network ++
      match finish action network with
      | (middle, .ok value) => contacts (next value) middle
      | (_, .error _) => [] := by
  have contacts_first := first.contacts_final network
  apply (blind_bind first second).contacts_eq
  rw [← List.append_assoc, ← contacts_first, final_eq, final_eq, finish_bind]
  rcases finish action network with ⟨middle, _ | value⟩
  · simp
  · exact (second value).contacts_final middle

/-! ## Runs without contacts -/

/-- A blind run makes no contact. -/
structure Silent (action : Run α) : Prop where
  /-- The run behaves the same whatever was observed before it. -/
  blind : Blind action
  /-- No contact is made. -/
  contacts_eq_nil : ∀ network, contacts action network = []

theorem Blind.silent (blind : Blind action)
    (same : ∀ network, (final action network).contacts = network.contacts) : Silent action := by
  refine ⟨blind, fun network => blind.contacts_eq network ?_⟩
  rw [List.append_nil]
  exact same network

theorem Silent.contacts_of_finish {before after : Network} {outcome : Except Failure α}
    (silent : Silent action) (ended : finish action before = (after, outcome)) :
    after.contacts = before.contacts := by
  rw [silent.blind.contacts_of_finish ended, silent.contacts_eq_nil, List.append_nil]

theorem silent_pure (value : α) : Silent (pure value) :=
  (blind_pure value).silent fun _ => rfl

theorem silent_throw (failure : Failure) : Silent (throw failure : Run α) :=
  (blind_throw failure).silent fun _ => rfl

theorem silent_emit {event : Event} (other : event.isContact = false) : Silent (emit event) := by
  apply (blind_emit event).silent
  intro network
  simp [final_eq, Network.contacts, other]

theorem silent_log (record : LogRecord) : Silent (log record) :=
  silent_emit rfl

theorem silent_ofExcept {ε : Type} (cause : ε → Failure) (outcome : Except ε α) :
    Silent (ofExcept cause outcome) := by
  apply (blind_ofExcept cause outcome).silent
  intro network
  rw [final_eq, finish_ofExcept]

theorem contacts_observe_log (record : LogRecord) :
    (network.observe [.log record]).contacts = network.contacts := by
  simp [Network.contacts, Event.isContact]

theorem silent_read (content : Content) : Silent (ofOutcome content.read) := by
  apply (blind_ofOutcome content.read).silent
  intro network
  simp [final_eq, Network.contacts, content.contacts_read]

theorem silent_release (response : Response) : Silent (release response) := by
  apply (blind_ofOutcome response.body.close).silent
  intro network
  simp [final_eq, Network.contacts, response.body.contacts_close]

theorem silent_verdict (number : Nat) (name : Text) : Silent (verdict number name) := by
  apply (blind_verdict number name).silent
  intro network
  rw [final_eq, finish_verdict]
  split <;> rfl

theorem Silent.contacts_bind (first : Silent action) (second : ∀ value, Blind (next value)) :
    contacts (action >>= next) network =
      match finish action network with
      | (middle, .ok value) => contacts (next value) middle
      | (_, .error _) => [] := by
  rw [Run.contacts_bind network first.blind second, first.contacts_eq_nil, List.nil_append]

theorem contacts_bind_silent (first : Blind action) (second : ∀ value, Silent (next value)) :
    contacts (action >>= next) network = contacts action network := by
  rw [contacts_bind network first fun value => (second value).blind]
  split
  · rw [(second _).contacts_eq_nil, List.append_nil]
  · rw [List.append_nil]

theorem Silent.bind (first : Silent action) (second : ∀ value, Silent (next value)) :
    Silent (action >>= next) := by
  refine ⟨blind_bind first.blind fun value => (second value).blind, fun network => ?_⟩
  rw [contacts_bind_silent network first.blind second, first.contacts_eq_nil]

end Run

open Run

namespace Endpoint

/-- The request that an endpoint makes, unless the line or the body cannot be read. -/
def requests (line : Option Text) (headers : Headers) (body : Body) : Endpoint → List Event
  | .party peer =>
      match (body.toContent .caller).read.result with
      | .ok data => [.request peer line headers data]
      | .error _ => []
  | .remote secure host port =>
      match RequestLine.parse line, (body.toContent .caller).read.result with
      | .ok read, .ok data =>
          [.send read.method (url secure host port read.target) headers
            (if data.isEmpty then none else some data)]
      | _, _ => []

variable (line : Option Text) (headers : Headers) (body : Body)

theorem contacts_respond (endpoint : Endpoint) (network : Network) :
    contacts (endpoint.respond line headers body) network =
      endpoint.requests line headers body := by
  apply (endpoint.blind_respond line headers body).contacts_eq
  have reading := (body.toContent .caller).contacts_read
  cases endpoint with
  | party peer =>
      simp only [final_eq, respond, requests, finish_bind, finish_readBody]
      cases (body.toContent .caller).read.result with
      | error failure => simp [Network.contacts, reading]
      | ok data =>
          simp only [finish_emit, finish_receive, Network.script_observe]
          split <;> simp [Network.contacts, reading, Event.isContact]
  | remote secure host port =>
      simp only [final_eq, respond, requests, finish_bind]
      cases RequestLine.parse line with
      | error error => simp only [finish_ofExcept_error, List.append_nil]
      | ok read =>
          simp only [finish_ofExcept_ok, finish_readBody]
          cases (body.toContent .caller).read.result with
          | error failure => simp [Network.contacts, reading]
          | ok data =>
              simp only [finish_log, finish_emit, finish_receive, Network.script_observe]
              rcases (network.script .client).pending with _ | ⟨_ | _, _⟩
              all_goals simp [Network.contacts, reading, List.filter_cons, Event.isContact]

/-- An endpoint makes one request at most. -/
theorem length_requests_le (endpoint : Endpoint) :
    (endpoint.requests line headers body).length ≤ 1 := by
  cases endpoint <;> rw [requests] <;> split <;> simp

end Endpoint

namespace Dialer

/-- The endpoint that a dialer leads to. -/
def endpoint (target : RealmTarget) : Dialer → Endpoint
  | .recorded => .party .realm
  | .http => .ofHost target.secure target.host (target.port.map Int.ofNat)

/-- The contact that a dialer makes itself. -/
def openings (target : RealmTarget) : Dialer → List Event
  | .recorded => [.dial target.secure target.host (target.port.map Int.ofNat)]
  | .http => []

theorem finish_dial (dialer : Dialer) (target : RealmTarget) (network : Network) :
    finish (dialer.dial target.secure target.host (target.port.map Int.ofNat)) network =
      (network.observe (dialer.openings target), .ok (dialer.endpoint target)) := by
  cases dialer with
  | recorded => rfl
  | http => exact congrArg (·, _) network.observe_nil.symm

end Dialer

namespace Authenticator

/-- Read the token in the response of a token service. -/
def readToken (format : TokenFormat) (target : RealmTarget) (response : Response) :
    Run Headers := do
  if !isSuccess response.status then
    Run.log (.realmStatus target.host response.status)
  let content ← Run.ofOutcome response.body.read
  let token ← Run.ofExcept .token (format.token content)
  return bearerHeaders token

/-- Ask an endpoint for a token. -/
def requestToken (format : TokenFormat) (target : RealmTarget) (endpoint : Endpoint)
    (credentials : Headers) : Run Headers := do
  let response ← endpoint.respond (some (target.line "GET".toList)) credentials .none
  readToken format target response

theorem silent_readToken (format : TokenFormat) (target : RealmTarget) (response : Response) :
    Silent (readToken format target response) := by
  have token_read : Silent do
      let content ← Run.ofOutcome response.body.read
      let token ← Run.ofExcept .token (format.token content)
      return bearerHeaders token :=
    (silent_read _).bind fun content => (silent_ofExcept _ _).bind fun token => silent_pure _
  rw [readToken]
  split
  · exact (silent_log _).bind fun _ => token_read
  · exact token_read

theorem blind_requestToken (format : TokenFormat) (target : RealmTarget) (endpoint : Endpoint)
    (credentials : Headers) : Blind (requestToken format target endpoint credentials) :=
  blind_bind (endpoint.blind_respond _ _ _) fun response =>
    (silent_readToken format target response).blind

theorem contacts_requestToken (format : TokenFormat) (target : RealmTarget) (endpoint : Endpoint)
    (credentials : Headers) (network : Network) :
    contacts (requestToken format target endpoint credentials) network =
      endpoint.requests (some (target.line "GET".toList)) credentials .none := by
  rw [requestToken, contacts_bind_silent network (endpoint.blind_respond _ _ _)
    (silent_readToken format target), Endpoint.contacts_respond]

/-- An exchange for a token goes to the endpoint that the dialer leads to. -/
theorem finish_fetch (dialer : Dialer) (format : TokenFormat) (realmAuth : Run Headers)
    (target : RealmTarget) (network : Network) :
    finish (fetch dialer format realmAuth target) network =
      finish (realmAuth >>= requestToken format target (dialer.endpoint target))
        (network.observe (dialer.openings target ++ [.log (.requestingToken target)])) := by
  rw [Network.observe_append, fetch, finish_bind, dialer.finish_dial target]
  rfl

/-- The contacts of an exchange for a token: a request is made if there are credentials for it. -/
def tokenContacts (dialer : Dialer) (target : RealmTarget) (credentials : Except Failure Headers) :
    List Event :=
  dialer.openings target ++
    match credentials with
    | .ok headers =>
        (dialer.endpoint target).requests (some (target.line "GET".toList)) headers .none
    | .error _ => []

theorem contacts_fetch (dialer : Dialer) (format : TokenFormat) {realmAuth : Run Headers}
    (silent : Silent realmAuth) (target : RealmTarget) (network : Network) :
    contacts (fetch dialer format realmAuth target) network =
      tokenContacts dialer target (result realmAuth network) := by
  have openings_eq : (dialer.openings target ++ [Event.log (.requestingToken target)]).filter
      Event.isContact = dialer.openings target := by
    cases dialer <;> rfl
  have requesting := blind_requestToken format target (dialer.endpoint target)
  rw [contacts_of_observe network (blind_fetch dialer format silent.blind target)
    (blind_bind silent.blind requesting) (finish_fetch dialer format realmAuth target network),
    openings_eq, silent.contacts_bind network requesting, result_eq]
  rcases finish realmAuth network with ⟨middle, failure | credentials⟩
  · rfl
  · exact congrArg (dialer.openings target ++ ·) (contacts_requestToken format target _ _ middle)

/-- An exchange for a token makes one request at most. -/
theorem count_tokenContacts_le (dialer : Dialer) (target : RealmTarget)
    (credentials : Except Failure Headers) :
    (tokenContacts dialer target credentials).countP Event.isRequest ≤ 1 := by
  have none_opened : (dialer.openings target).countP Event.isRequest = 0 := by
    cases dialer <;> rfl
  cases credentials with
  | error failure => simp [tokenContacts, none_opened]
  | ok headers =>
      rw [tokenContacts, List.countP_append, none_opened, Nat.zero_add]
      exact Nat.le_trans List.countP_le_length (Endpoint.length_requests_le _ _ _ _)

end Authenticator

end HttpAuth
