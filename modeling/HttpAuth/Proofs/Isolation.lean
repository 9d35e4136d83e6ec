import HttpAuth.Proofs.Secrets

/-!
# Credentials stay apart

Of a request with a Bearer authenticator, what the server of the request receives does not depend on
the credentials for the token service, and what the token service receives does not depend on the
headers and the body of the request or on the credentials for the server.
-/

namespace HttpAuth

open Run

/-- A body that can be read. -/
def Body.Readable (body : Body) : Prop :=
  ∃ data, (body.toContent .caller).read.result = .ok data

theorem Body.Readable.readsLike {body other : Body} (readable : body.Readable)
    (other_readable : other.Readable) : body.ReadsLike other := by
  obtain ⟨data, read⟩ := readable
  obtain ⟨other_data, other_read⟩ := other_readable
  rw [Body.ReadsLike, read, other_read]
  rfl

/-- The requests that a party receives during a run. -/
def Run.requestsTo {α : Type} (peer : Peer) (action : Run α) (network : Network) : List Event :=
  (observed action network).filter (Event.isRequestTo peer)

namespace Observer

/-- Someone who sees the requests that a party receives. -/
def atPeer (peer : Peer) : Observer where
  sees := Event.isRequestTo peer
  sees_no_body := by
    intro event about_body
    cases event with
    | chunk | close => rfl
    | _ => cases about_body

/-- A party does not see the requests that another one receives. -/
theorem unseen_atPeer {peer other : Peer} (apart : peer ≠ other) (event : Event)
    (request : event.isRequestTo peer) : (atPeer other).sees event = false := by
  cases event with
  | request receiver line headers data =>
      obtain rfl := eq_of_beq request
      simpa [atPeer, Event.isRequestTo] using apart
  | send method url headers content =>
      obtain rfl := eq_of_beq request
      simpa [atPeer, Event.isRequestTo] using apart.symm
  | _ => cases request

end Observer

namespace Service

/-- What two requests have in common whose networks differ in the trace alone. -/
def Stages.untraced (given : Headers → Headers → Prop)
    (size_eq : ∀ {first other}, given first other → first.size = other.size) : Stages where
  start before other_before := before.untraced = other_before.untraced
  given := given
  met response other after other_after :=
    response = other ∧ after.untraced = other_after.untraced
  later before other_before := before.untraced = other_before.untraced
  ended response other := response = other
  start_ahead same ahead := ahead.untraced same
  size_eq := size_eq
  lasting :=
    { status_eq := fun met => congrArg Response.status met.1
      observe := fun _ _ met => met }
  closes := fun met => congrArg (·.body.close.result) met.1
  later_ahead same ahead := ahead.untraced same
  ended_of_met := And.left

section Isolation

variable {endpoint : Endpoint} {dialer : Dialer} (paths : List Text) (format : TokenFormat)
variable (line : Option Text) (network : Network)

/-- The server does not see which credentials the token service receives. -/
theorem confuses_realm_credentials (apart : endpoint.peer ≠ dialer.peer)
    (fallback : Authenticator) {realmAuth other_realmAuth : Authenticator}
    (plain : realmAuth.Plain) (other_plain : other_realmAuth.Plain) (headers : Headers)
    (body : Body) :
    let service (realmAuth : Authenticator) : Service :=
      .authenticated ((direct endpoint).underAll paths) (.bearer dialer format fallback realmAuth)
    (Observer.atPeer endpoint.peer).Confuses (fun response other _ _ => response = other)
      ((service realmAuth).respond line headers body)
      ((service other_realmAuth).respond line headers body) network network := by
  intro service
  have sending := ((direct endpoint).underAll paths).blind_respond line
  refine confuses_authenticate (.untraced Eq (congrArg Headers.size)) line rfl
    ?asking ?sending ?answering ?resending rfl
  case asking =>
    intro _ _ same
    exact .of_blind (fallback.blind_answer .empty) same
  case sending =>
    rintro data other_data first _ _ _ read other_read rfl same
    obtain rfl := Except.ok.inj (read.symm.trans other_read)
    exact .of_blind (sending _ _) same
  case resending =>
    rintro data other_data first _ _ _ read other_read rfl same
    obtain rfl := Except.ok.inj (read.symm.trans other_read)
    exact (Observer.Confuses.of_blind (sending _ _) same).mono fun _ _ _ _ => And.left
  case answering =>
    rintro response _ _ _ ⟨rfl, same⟩ -
    apply Authenticator.confuses_bearer
    case handing =>
      intro _ _ _ ahead
      exact .of_blind (fallback.blind_answer _) (ahead.untraced same)
    case fetching =>
      intro challenge target _ _ _ _ ahead
      refine Authenticator.confuses_fetch target ?_ (Observer.unseen_atPeer apart.symm)
        (Stages.untraced Eq (congrArg Headers.size)).lasting ?_ ?_
      · intro _ _
        obtain ⟨given, answer_eq⟩ := plain.answer_eq
        obtain ⟨other_given, other_answer_eq⟩ := other_plain.answer_eq
        rw [answer_eq, other_answer_eq]
        exact .pure .refl
      · intro _ _ further
        exact .of_blind (blind_receive _ _) (further.untraced (ahead.untraced same))
      · rintro reply _ _ _ ⟨rfl, still⟩
        exact .of_blind (Authenticator.silent_readToken format target reply).blind still

/-- The token service does not see the headers and the body of a request and the credentials for
the server. -/
theorem confuses_request_secrets (apart : endpoint.peer ≠ dialer.peer)
    {fallback other_fallback realmAuth : Authenticator} (plain : realmAuth.Plain)
    (same_fallback : fallback.SameButSecrets other_fallback) (headers other_headers : Headers)
    {body other_body : Body} (bodies : body.ReadsLike other_body) :
    let service (fallback : Authenticator) : Service :=
      .authenticated ((direct endpoint).underAll paths) (.bearer dialer format fallback realmAuth)
    (Observer.atPeer dialer.peer).Confuses (fun response other _ _ => response = other)
      ((service fallback).respond line headers body)
      ((service other_fallback).respond line other_headers other_body) network network := by
  intro service
  have same_answers : (Authenticator.bearer dialer format fallback realmAuth).SameButSecrets
      (.bearer dialer format other_fallback realmAuth) :=
    .bearer same_fallback (.refl_of_plain plain)
  let stages : Stages := .untraced (fun first second => first.size = second.size) id
  have sending (headers other_headers : Headers) (data other_data : Octets)
      {between other_between : Network} (same : between.untraced = other_between.untraced) :
      (Observer.atPeer dialer.peer).Confuses stages.met
        (((direct endpoint).underAll paths).respond line headers (.bytes data))
        (((direct endpoint).underAll paths).respond line other_headers (.bytes other_data)) between
        other_between := by
    apply confuses_underAll
    intro line _ _ ahead
    have read : Body.ReadsLike (.bytes data) (.bytes other_data) := rfl
    refine endpoint.confuses_respond line _ _ (Observer.unseen_atPeer apart) read stages.lasting ?_
    intro _ _ further
    exact .of_blind (blind_receive _ _) (further.untraced (ahead.untraced same))
  refine confuses_authenticate stages line bodies ?asking ?sending ?answering ?resending rfl
  case asking =>
    intro _ _ same
    refine (Authenticator.confuses_answer_of_handsOn Authenticator.handsOn_empty same_answers).mono
      ?_
    rintro _ _ _ _ ⟨sizes, ahead⟩
    exact ⟨sizes, ahead.untraced same⟩
  case sending =>
    intro _ _ _ _ _ _ _ _ _ same
    exact sending _ _ _ _ same
  case resending =>
    intro _ _ _ _ _ _ _ _ _ same
    exact (sending _ _ _ _ same).mono fun _ _ _ _ => And.left
  case answering =>
    rintro response _ _ _ ⟨rfl, same⟩ -
    apply Authenticator.confuses_bearer
    case fetching =>
      intro challenge target _ _ _ _ ahead
      have blind := Authenticator.blind_fetch dialer format (realmAuth.blind_answer .empty) target
      refine (Observer.Confuses.of_blind blind (ahead.untraced same)).mono ?_
      rintro token _ _ _ ⟨rfl, still⟩
      exact ⟨rfl, still⟩
    case handing =>
      intro handed _ _ ahead
      refine (Authenticator.confuses_answer_of_handsOn handed same_fallback).mono ?_
      rintro _ _ _ _ ⟨sizes, further⟩
      exact ⟨sizes, further.untraced (ahead.untraced same)⟩

end Isolation

/-- Let the server and the token service be different parties.  Credentials for the token service
make no difference to what the server receives and to the result.  The headers and the body of a
request and the credentials for the server make no difference to what the token service
receives. -/
theorem respond_isolates_credentials (endpoint : Endpoint) (dialer : Dialer)
    (apart : endpoint.peer ≠ dialer.peer) (paths : List Text) (format : TokenFormat)
    (line : Option Text) (network : Network) (fallback : Authenticator) {realmAuth : Authenticator}
    (plain : realmAuth.Plain) (headers : Headers) (body : Body) :
    let respond (fallback realmAuth : Authenticator) : Headers → Body → Run Response :=
      (authenticated ((direct endpoint).underAll paths)
        (.bearer dialer format fallback realmAuth)).respond line
    let call := respond fallback realmAuth headers body
    (∀ other_realmAuth : Authenticator, other_realmAuth.Plain →
      let other_call := respond fallback other_realmAuth headers body
      requestsTo endpoint.peer call network = requestsTo endpoint.peer other_call network ∧
        result call network = result other_call network) ∧
    ∀ (other_fallback : Authenticator) (other_headers : Headers) (other_body : Body),
      fallback.SameButSecrets other_fallback → body.Readable → other_body.Readable →
      requestsTo dialer.peer call network =
        requestsTo dialer.peer (respond other_fallback realmAuth other_headers other_body)
          network := by
  intro respond call
  constructor
  · intro other_realmAuth other_plain other_call
    have confused := confuses_realm_credentials paths format line network apart fallback plain
      other_plain headers body
    exact ⟨confused.view_observed, confused.result_eq fun _ _ _ _ => id⟩
  · intro other_fallback other_headers other_body same_fallback readable other_readable
    exact (confuses_request_secrets paths format line network apart plain same_fallback headers
      other_headers (readable.readsLike other_readable)).view_observed

/-- Both requests to the server and the one for a token are made here. -/
theorem respond_isolates_basic_credentials :
    let challenge : Headers :=
      .single "WWW-Authenticate".toList "Bearer realm=\"http://h/t\"".toList
    let network : Network :=
      { origin :=
          { pending := [.response 401 challenge .none none, .response 200 .empty .none none] }
        realm :=
          { pending := [.response 200 .empty (.bytes (Utf8.encode "token=abc".toList)) none] } }
    let basic (name password : String) : Authenticator := .basic name.toList password.toList
    let respond (fallback realmAuth : Authenticator) : Headers → Body → Run Response :=
      (authenticated ((direct (.party .origin)).underAll [])
        (.bearer .recorded (.form "token".toList) fallback realmAuth)).respond
          (some "GET / HTTP/1.1".toList)
    let call := respond (basic "u" "1") (basic "r" "2") .empty .none
    (requestsTo .origin call network).length = 2 ∧ (requestsTo .realm call network).length = 1 ∧
      (let other_call := respond (basic "u" "1") (basic "s" "3") .empty .none
      requestsTo .origin call network = requestsTo .origin other_call network ∧
        result call network = result other_call network) ∧
      requestsTo .realm call network =
        requestsTo .realm
          (respond (basic "v" "4") (basic "r" "2") (.single "X".toList "5".toList) (.bytes [6]))
          network := by
  intro challenge network basic respond call
  have apart : Endpoint.peer (.party .origin) ≠ Dialer.recorded.peer := by decide
  have plain (name password : String) : (basic name password).Plain := trivial
  have isolated := respond_isolates_credentials (.party .origin) .recorded apart []
    (.form "token".toList) (some "GET / HTTP/1.1".toList) network (basic "u" "1") (plain "r" "2")
    .empty .none
  exact ⟨by decide +kernel, by decide +kernel, isolated.1 _ (plain "s" "3"),
    isolated.2 _ _ _ .basic ⟨_, rfl⟩ ⟨_, rfl⟩⟩

end Service
end HttpAuth
