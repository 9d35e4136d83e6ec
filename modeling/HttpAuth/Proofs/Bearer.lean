import HttpAuth.Proofs.Spending

/-!
# The ways of a request with a Bearer authenticator

A Bearer authenticator whose fallback and whose authenticator for the token service always give the
same headers answers in one of four ways, and a request with it goes one of six ways.  The replies
that are left tell which, and what it asks of whom.
-/

namespace HttpAuth

open Run Network

namespace Authenticator

/-- The credentials that come of the reply of a token service. -/
def tokenHeaders (format : TokenFormat) (reply : Except Failure Response) :
    Except Failure Headers := do
  let response ← reply
  (tokenIn format response.body).map bearerHeaders

/-- What a Bearer authenticator makes of the headers of a response: the contacts, and the answer.
Its fallback gives always the same headers, and so does the authenticator for the token service. -/
inductive Answers (dialer : Dialer) (format : TokenFormat) (given credentials : Headers)
    (network : Network) (headers : Headers) : List Event → Except Failure Headers → Prop where
  /-- The fallback answers. -/
  | handed (handed : HandsOn headers) :
      Answers dialer format given credentials network headers [] (.ok given)
  /-- The realm cannot be split as a URI. -/
  | unsplittable {challenge error} (search : (Challenge.findBearer headers).2 = some challenge)
      (refused : challenge.target = .error (.unsplittable error)) :
      Answers dialer format given credentials network headers [] (.error (.realmUri error))
  /-- The request for a token cannot be made. -/
  | unsent {challenge target failure} (search : (Challenge.findBearer headers).2 = some challenge)
      (accepted : challenge.target = .ok target)
      (none_made : (dialer.endpoint target).requests (some (target.line "GET".toList)) credentials
        .none = []) :
      Answers dialer format given credentials network headers (dialer.openings target)
        (.error failure)
  /-- The token service is asked for a token. -/
  | exchanged {challenge target request}
      (search : (Challenge.findBearer headers).2 = some challenge)
      (accepted : challenge.target = .ok target)
      (made : (dialer.endpoint target).requests (some (target.line "GET".toList)) credentials
        .none = [request]) :
      Answers dialer format given credentials network headers
        (dialer.openings target ++ [request])
        (tokenHeaders format (network.reply dialer.peer dialer.content))

/-- What was observed before has no influence. -/
theorem Answers.of_untraced {dialer : Dialer} {format : TokenFormat} {given credentials : Headers}
    {network other : Network} {headers : Headers} {contacts : List Event}
    {outcome : Except Failure Headers} (same : network.untraced = other.untraced)
    (answers : Answers dialer format given credentials network headers contacts outcome) :
    Answers dialer format given credentials other headers contacts outcome := by
  cases answers with
  | handed handed => exact .handed handed
  | unsplittable search refused => exact .unsplittable search refused
  | unsent search accepted none_made => exact .unsent search accepted none_made
  | exchanged search accepted made =>
      rw [reply_of_untraced same]
      exact .exchanged search accepted made

/-- The token service that the first readable Bearer challenge names, if it is usable. -/
def target? (headers : Headers) : Option RealmTarget :=
  (Challenge.findBearer headers).2.bind (·.target.toOption)

theorem target?_of_target {headers : Headers} {challenge : Challenge} {target : RealmTarget}
    (search : (Challenge.findBearer headers).2 = some challenge)
    (accepted : challenge.target = .ok target) : target? headers = some target := by
  rw [target?, search, Option.bind_some, accepted]
  rfl

theorem target?_of_refused {headers : Headers}
    (refused : ∀ challenge, (Challenge.findBearer headers).2 = some challenge →
      ∃ refusal, challenge.target = .error refusal) : target? headers = none := by
  cases search : (Challenge.findBearer headers).2 with
  | none => rw [target?, search, Option.bind_none]
  | some challenge =>
      obtain ⟨refusal, refused⟩ := refused challenge search
      rw [target?, search, Option.bind_some, refused]
      rfl

/-- The contacts of the exchange of a challenge for a token, if the challenge is usable. -/
def exchange (dialer : Dialer) (credentials : Headers) : Option RealmTarget → List Event
  | some target => tokenContacts dialer target (.ok credentials)
  | none => []

section Answered

variable {dialer : Dialer} {format : TokenFormat} {given credentials : Headers}
variable {network : Network} {headers : Headers} {contacts : List Event}

/-- An exchange is made exactly for a usable challenge. -/
theorem Answers.contacts_eq {outcome : Except Failure Headers}
    (answers : Answers dialer format given credentials network headers contacts outcome) :
    contacts = exchange dialer credentials (target? headers) := by
  cases answers with
  | handed handed =>
      have refused := target?_of_refused fun challenge found =>
        (handed challenge found).imp fun _ => And.left
      rw [refused, exchange]
  | unsplittable search refused =>
      have refused : target? headers = none := target?_of_refused fun challenge found => by
        rw [search] at found
        obtain rfl := Option.some.inj found
        exact ⟨_, refused⟩
      rw [refused, exchange]
  | unsent search accepted none_made =>
      rw [target?_of_target search accepted, exchange, tokenContacts, none_made, List.append_nil]
  | exchanged search accepted made =>
      rw [target?_of_target search accepted, exchange, tokenContacts, made]

/-- An answer is that of the fallback, or it is made of the token in the reply that the exchange has
taken. -/
theorem Answers.answer_cases {second : Headers}
    (answers : Answers dialer format given credentials network headers contacts (.ok second)) :
    target? headers = none ∧ second = given ∨
      ∃ target response token, target? headers = some target ∧
        network.reply dialer.peer dialer.content = .ok response ∧
        tokenIn format response.body = .ok token ∧ second = bearerHeaders token := by
  generalize answer_eq : Except.ok second = answer at answers
  cases answers with
  | handed handed =>
      have refused := target?_of_refused fun challenge found =>
        (handed challenge found).imp fun _ => And.left
      exact .inl ⟨refused, Except.ok.inj answer_eq⟩
  | unsplittable | unsent => cases answer_eq
  | @exchanged _ target _ search accepted made =>
      cases reply : network.reply dialer.peer dialer.content with
      | error failure =>
          rw [reply] at answer_eq
          cases answer_eq
      | ok response =>
          rw [reply] at answer_eq
          change Except.ok second = (tokenIn format response.body).map bearerHeaders at answer_eq
          cases found : tokenIn format response.body with
          | error failure =>
              rw [found] at answer_eq
              cases answer_eq
          | ok token =>
              rw [found] at answer_eq
              exact .inr ⟨target, response, token, target?_of_target search accepted, rfl, found,
                Except.ok.inj answer_eq⟩

end Answered

/-- Log records take no reply. -/
theorem spends_of_records {network : Network} {events : List Event}
    (records : ∀ event ∈ events, ∃ record, event = .log record) :
    Spends network (network.observe events) [] := by
  refine .of_quiet fun event member => ?_
  obtain ⟨record, rfl⟩ := records event member
  exact ⟨rfl, rfl⟩

/-- Reading a token takes no reply. -/
theorem spends_readToken (format : TokenFormat) (target : RealmTarget) (response : Response)
    (network : Network) :
    Spends network (final (readToken format target response) network) [] := by
  rw [final_eq, finish_readToken, Network.observe_append]
  have logging : Spends network (network.observe (if isSuccess response.status then []
      else [.log (.realmStatus target.host response.status)])) [] := by
    refine spends_of_records fun event member => ?_
    split at member
    · cases member
    · exact ⟨_, List.mem_singleton.mp member⟩
  exact logging.trans (.of_read _)

/-- Asking for a way to the token service takes no reply. -/
theorem spends_openings (dialer : Dialer) (target : RealmTarget) (network : Network) :
    Spends network
      (network.observe (dialer.openings target ++ [.log (.requestingToken target)]))
      (dialer.openings target) := by
  have openings_eq : (dialer.openings target ++ [Event.log (.requestingToken target)]).filter
      Event.isContact = dialer.openings target := by
    cases dialer <;> rfl
  have spends : Spends network
      (network.observe (dialer.openings target ++ [.log (.requestingToken target)])) _ :=
    .of_observe (fun peer => ?_) ?_
  · rwa [openings_eq] at spends
  · cases dialer <;> rfl
  · cases dialer <;> rfl

section Bearer

variable {dialer : Dialer} {format : TokenFormat} {fallback realmAuth : Authenticator}
variable {given credentials : Headers}

/-- An exchange for a token makes one request, if its line can be read. -/
theorem answers_fetch {headers : Headers} {challenge : Challenge} {target : RealmTarget}
    (realm_answer : realmAuth.answer .empty = pure credentials)
    (search : (Challenge.findBearer headers).2 = some challenge)
    (accepted : challenge.target = .ok target) (network : Network) :
    let exchange := fetch dialer format (realmAuth.answer .empty) target
    ∃ contacts, Spends network (final exchange network) contacts ∧
      Answers dialer format given credentials network headers contacts
        (result exchange network) := by
  intro exchange
  let endpoint := dialer.endpoint target
  let line := some (target.line "GET".toList)
  let opened := network.observe (dialer.openings target ++ [.log (.requestingToken target)])
  have finish_eq : finish exchange network =
      finish (endpoint.respond line credentials .none >>= readToken format target) opened := by
    simp only [exchange, finish_fetch, realm_answer, pure_bind]
    rfl
  have opening : Spends network opened (dialer.openings target) :=
    spends_openings dialer target network
  have replied : opened.reply endpoint.peer endpoint.content =
      network.reply dialer.peer dialer.content := by
    rw [reply_observe, dialer.endpoint_peer, dialer.endpoint_content]
  obtain ⟨requesting, answered, refused⟩ :=
    endpoint.spends_respond line credentials .none opened
  have once := endpoint.length_requests_le line credentials .none
  rw [final_eq, result_eq, finish_eq, finish_bind]
  rw [final_eq] at requesting
  rw [result_eq] at answered refused
  rcases sending : finish (endpoint.respond line credentials .none) opened with ⟨middle, outcome⟩
  rw [sending] at requesting answered refused
  cases made : endpoint.requests line credentials .none with
  | nil =>
      obtain ⟨failure, failed⟩ := refused made
      obtain rfl : outcome = .error failure := failed
      rw [made] at requesting
      refine ⟨dialer.openings target, ?_, .unsent search accepted made⟩
      have spends := opening.trans requesting
      rwa [List.append_nil] at spends
  | cons request others =>
      rw [made] at requesting answered once
      obtain rfl : others = [] :=
        List.eq_nil_of_length_eq_zero (Nat.le_zero.mp (Nat.le_of_succ_le_succ once))
      have outcome_eq : outcome = opened.reply endpoint.peer endpoint.content :=
        answered (List.cons_ne_nil _ _)
      rw [replied] at outcome_eq
      have exchanged : Answers dialer format given credentials network headers _ _ :=
        .exchanged search accepted made
      rw [← outcome_eq] at exchanged
      refine ⟨dialer.openings target ++ [request], ?_, ?_⟩
      · have spends := opening.trans requesting
        cases outcome with
        | error failure => exact spends
        | ok response =>
            have read := spends.trans (spends_readToken format target response middle)
            rwa [List.append_nil] at read
      · cases outcome with
        | error failure => exact exchanged
        | ok response =>
            simp only [finish_readToken]
            exact exchanged

/-- A Bearer authenticator answers in one of the ways. -/
theorem answers_bearer (fallback_answer : ∀ headers, fallback.answer headers = pure given)
    (realm_answer : realmAuth.answer .empty = pure credentials) (headers : Headers)
    (network : Network) :
    let answer := (bearer dialer format fallback realmAuth).answer headers
    ∃ contacts, Spends network (final answer network) contacts ∧
      Answers dialer format given credentials network headers contacts (result answer network) := by
  intro answer
  have of_later {action : Run Headers} {logs : List Event}
      (records : ∀ event ∈ logs, ∃ record, event = .log record)
      (finish_eq : finish answer network = finish action (network.observe logs))
      (later : ∃ contacts, Spends (network.observe logs) (final action (network.observe logs))
          contacts ∧
        Answers dialer format given credentials (network.observe logs) headers contacts
          (result action (network.observe logs))) :
      ∃ contacts, Spends network (final answer network) contacts ∧
        Answers dialer format given credentials network headers contacts
          (result answer network) := by
    obtain ⟨contacts, spends, answers⟩ := later
    have same : (network.observe logs).untraced = network.untraced := rfl
    rw [final_eq, result_eq, finish_eq]
    exact ⟨contacts, (spends_of_records records).trans spends, answers.of_untraced same⟩
  rcases handsOn_cases headers with ⟨challenge, target, search, accepted⟩ |
    ⟨challenge, error, search, refused⟩ | handed
  · exact of_later (rejections_are_logs headers)
      (finish_bearer_of_target dialer format fallback realmAuth network search accepted)
      (answers_fetch realm_answer search accepted _)
  · exact of_later (rejections_are_logs headers)
      (finish_bearer_of_unsplittable dialer format fallback realmAuth network search refused)
      ⟨[], .refl _, .unsplittable search refused⟩
  · obtain ⟨logs, records, finished⟩ := finish_bearer_of_handsOn handed
    refine of_later records (finished dialer format fallback realmAuth network) ?_
    rw [fallback_answer]
    exact ⟨[], .refl _, .handed handed⟩

end Bearer
end Authenticator

namespace Service

open Authenticator

/-- The way of a request with credentials: the contacts, and the result.  Each time the request is
made with some headers, it is this request to a party, whose replies have these contents. -/
inductive Way (dialer : Dialer) (format : TokenFormat) (given credentials : Headers)
    (request : Headers → Event) (peer : Peer) (content : Owner → Body → Option Hook → Content)
    (headers : Headers) (network : Network) : List Event → Except Failure Response → Prop where
  /-- There is no first response. -/
  | lost {failure} (reply : network.reply peer content = .error failure) :
      Way dialer format given credentials request peer content headers network
        [request (headers ++ given)] (.error failure)
  /-- The first response is no challenge. -/
  | accepted {response} (reply : network.reply peer content = .ok response)
      (accepted : response.status ≠ unauthorized) :
      Way dialer format given credentials request peer content headers network
        [request (headers ++ given)] (.ok response)
  /-- The authenticator fails on the challenge. -/
  | unmet {response exchange reason failure} (reply : network.reply peer content = .ok response)
      (challenged : response.status = unauthorized)
      (answers : Answers dialer format given credentials
        (network.spent [request (headers ++ given)]) response.headers exchange (.error reason)) :
      Way dialer format given credentials request peer content headers network
        (request (headers ++ given) :: exchange) (.error failure)
  /-- The authenticator has nothing to offer. -/
  | declined {response exchange second} (reply : network.reply peer content = .ok response)
      (challenged : response.status = unauthorized)
      (answers : Answers dialer format given credentials
        (network.spent [request (headers ++ given)]) response.headers exchange (.ok second))
      (nothing : second.isEmpty = true) :
      Way dialer format given credentials request peer content headers network
        (request (headers ++ given) :: exchange) (.ok response)
  /-- The challenge cannot be released. -/
  | unreleased {response exchange second failure}
      (reply : network.reply peer content = .ok response)
      (challenged : response.status = unauthorized)
      (answers : Answers dialer format given credentials
        (network.spent [request (headers ++ given)]) response.headers exchange (.ok second)) :
      Way dialer format given credentials request peer content headers network
        (request (headers ++ given) :: exchange) (.error failure)
  /-- The request is made once more. -/
  | retried {response exchange second} (reply : network.reply peer content = .ok response)
      (challenged : response.status = unauthorized)
      (answers : Answers dialer format given credentials
        (network.spent [request (headers ++ given)]) response.headers exchange (.ok second))
      (something : second.isEmpty = false) :
      Way dialer format given credentials request peer content headers network
        (request (headers ++ given) :: (exchange ++ [request (headers ++ second)]))
        ((network.spent (request (headers ++ given) :: exchange)).reply peer content)

/-- Each request of this service is made of a party and spends a reply. -/
def Sends (send : Headers → Body → Run Response) (data : Octets) (request : Headers → Event)
    (peer : Peer) (content : Owner → Body → Option Hook → Content) : Prop :=
  ∀ headers network,
    Spends network (final (send headers (.bytes data)) network) [request headers] ∧
      result (send headers (.bytes data)) network = network.reply peer content

theorem sends_of_requests {endpoint : Endpoint} {line : Option Text} {data : Octets}
    {request : Headers → Event}
    (requests_eq : ∀ headers, endpoint.requests line headers (.bytes data) = [request headers]) :
    Sends (fun headers body => endpoint.respond line headers body) data request endpoint.peer
      endpoint.content := by
  intro headers network
  obtain ⟨spends, answered, -⟩ := endpoint.spends_respond line headers (.bytes data) network
  rw [requests_eq] at spends answered
  exact ⟨spends, answered (List.cons_ne_nil _ _)⟩

section Ways

variable {send : Headers → Body → Run Response} {data : Octets} {request : Headers → Event}
variable {peer : Peer} {content : Owner → Body → Option Hook → Content}
variable {dialer : Dialer} {format : TokenFormat} {fallback realmAuth : Authenticator}
variable {given credentials headers : Headers} {line : Option Text} {body : Body}

/-- A first response comes of the first request. -/
theorem way_of_opening (sends : Sends send data request peer content)
    (fallback_answer : ∀ headers, fallback.answer headers = pure given)
    (read : (body.toContent .caller).read.result = .ok data) {before after : Network}
    {outcome : Except Failure (Octets × Response)}
    (opening : Opening send (bearer dialer format fallback realmAuth) line headers body before after
      outcome) :
    Spends before after [request (headers ++ given)] ∧
      outcome = (before.reply peer content).map (data, ·) := by
  have asked {network asked : Network} {outcome : Except Failure Headers}
      (asking : finish ((bearer dialer format fallback realmAuth).answer .empty) network =
        (asked, outcome)) : asked = network ∧ outcome = .ok given := by
    rw [bearer_answer_empty, fallback_answer, finish_pure] at asking
    obtain ⟨rfl, rfl⟩ := Prod.mk.inj asking
    exact ⟨rfl, rfl⟩
  have readable {middle : Network} {outcome : Except Failure Octets}
      (reading : finish (readBody .caller body) before = (middle, outcome)) :
      middle = before.observe (body.toContent .caller).read.events ∧ outcome = .ok data := by
    rw [finish_readBody, read] at reading
    obtain ⟨rfl, rfl⟩ := Prod.mk.inj reading
    exact ⟨rfl, rfl⟩
  have sent {middle asked_network : Network} {bytes : Octets} {first : Headers}
      {outcome : Except Failure Response}
      (reading : finish (readBody .caller body) before = (middle, .ok bytes))
      (asking : finish ((bearer dialer format fallback realmAuth).answer .empty) middle =
        (asked_network, .ok first))
      (sending : finish (send (headers ++ first) (.bytes bytes))
        (asked_network.observe [.log (.sending line first.size)]) = (after, outcome)) :
      bytes = data ∧ Spends before after [request (headers ++ given)] ∧
        outcome = before.reply peer content := by
    obtain ⟨rfl, same_data⟩ := readable reading
    obtain rfl := Except.ok.inj same_data
    obtain ⟨rfl, same_headers⟩ := asked asking
    obtain rfl := Except.ok.inj same_headers
    have ready : Spends (before.observe (body.toContent .caller).read.events) _ [] :=
      .of_log (.sending line first.size)
    obtain ⟨spends, result_eq⟩ := sends (headers ++ first) (Network.observe _ _)
    rw [final_eq, sending] at spends
    rw [Run.result_eq, sending, reply_observe, reply_observe] at result_eq
    exact ⟨rfl, ((Spends.of_read _).trans ready).trans spends, result_eq⟩
  cases opening with
  | unread reading => cases (readable reading).2
  | unasked reading asking => cases (asked asking).2
  | unsent reading asking sending | answered reading asking sending =>
      obtain ⟨rfl, spends, replied⟩ := sent reading asking sending
      exact ⟨spends, by rw [← replied]; rfl⟩

theorem reply_of_received {reply : Except Failure Response} {bytes : Octets} {response : Response}
    (received : .ok (bytes, response) = reply.map (data, ·)) :
    bytes = data ∧ reply = .ok response := by
  cases reply with
  | error failure => cases received
  | ok answer =>
      cases received
      exact ⟨rfl, rfl⟩

/-- A challenge goes one of the ways. -/
theorem way_of_meeting (sends : Sends send data request peer content)
    (fallback_answer : ∀ headers, fallback.answer headers = pure given)
    (realm_answer : realmAuth.answer .empty = pure credentials)
    {network middle after : Network} {response : Response} {outcome : Except Failure Response}
    (spends : Spends network middle [request (headers ++ given)])
    (reply : network.reply peer content = .ok response)
    (challenged : response.status = unauthorized)
    (meeting : Meeting send (bearer dialer format fallback realmAuth) line headers data response
      middle after outcome) :
    ∃ contacts, Spends network after contacts ∧
      Way dialer format given credentials request peer content headers network contacts
        outcome := by
  have answered {asked : Network} {answer : Except Failure Headers}
      (asking : finish ((bearer dialer format fallback realmAuth).answer response.headers)
        middle = (asked, answer)) :
      ∃ exchange, Spends network asked (request (headers ++ given) :: exchange) ∧
        Answers dialer format given credentials (network.spent [request (headers ++ given)])
          response.headers exchange answer := by
    obtain ⟨exchange, asking_spends, answers⟩ :=
      answers_bearer fallback_answer realm_answer response.headers middle
    rw [final_eq, asking] at asking_spends
    rw [Run.result_eq, asking] at answers
    exact ⟨exchange, spends.trans asking_spends, answers.of_untraced spends.rest⟩
  have released {asked after : Network} {outcome : Except Failure Unit}
      (releasing : finish (release response) asked = (after, outcome)) :
      Spends asked after [] := by
    rw [finish_release] at releasing
    obtain ⟨rfl, -⟩ := Prod.mk.inj releasing
    exact .of_close response.body
  cases meeting with
  | unmet asking releasing cause =>
      obtain ⟨exchange, asked, answers⟩ := answered asking
      have spends := asked.trans (released releasing)
      rw [List.append_nil] at spends
      exact ⟨_, spends, .unmet reply challenged answers⟩
  | declined asking nothing =>
      obtain ⟨exchange, asked, answers⟩ := answered asking
      have spends := asked.trans (.of_log (.noCredentials line))
      rw [List.append_nil] at spends
      exact ⟨_, spends, .declined reply challenged answers nothing⟩
  | unreleased asking something releasing =>
      obtain ⟨exchange, asked, answers⟩ := answered asking
      have spends := (asked.trans (.of_log (.retrying line))).trans (released releasing)
      rw [List.append_nil, List.append_nil] at spends
      exact ⟨_, spends, .unreleased reply challenged answers⟩
  | @retried _ ready _ second _ asking something releasing sending =>
      obtain ⟨exchange, asked, answers⟩ := answered asking
      have spends := (asked.trans (.of_log (.retrying line))).trans (released releasing)
      rw [List.append_nil, List.append_nil] at spends
      obtain ⟨sent, replied⟩ := sends (headers ++ second) ready
      rw [final_eq, sending] at sent
      have left : ready.untraced =
          (network.spent (request (headers ++ given) :: exchange)).untraced := spends.rest
      rw [Run.result_eq, sending, reply_of_untraced left] at replied
      obtain rfl : outcome = _ := replied
      exact ⟨_, spends.trans sent, .retried reply challenged answers something⟩

/-- Every request with a Bearer authenticator goes one of the ways. -/
theorem way_of_authenticate (sends : Sends send data request peer content)
    (fallback_answer : ∀ headers, fallback.answer headers = pure given)
    (realm_answer : realmAuth.answer .empty = pure credentials)
    (read : (body.toContent .caller).read.result = .ok data) (network : Network) :
    let call := authenticate send (bearer dialer format fallback realmAuth) line headers body
    ∃ contacts, Spends network (final call network) contacts ∧
      Way dialer format given credentials request peer content headers network contacts
        (result call network) := by
  intro call
  have course : Course send (bearer dialer format fallback realmAuth) line headers body network
      (final call network) (result call network) :=
    course_of_authenticate send _ line headers body network
  generalize final call network = after, result call network = outcome at course ⊢
  cases course with
  | failed opening =>
      obtain ⟨spends, lost⟩ := way_of_opening sends fallback_answer read opening
      cases reply : network.reply peer content with
      | ok response =>
          rw [reply] at lost
          cases lost
      | error failure =>
          rw [reply] at lost
          cases lost
          exact ⟨_, spends, .lost reply⟩
  | accepted opening accepted =>
      obtain ⟨spends, received⟩ := way_of_opening sends fallback_answer read opening
      obtain ⟨rfl, reply⟩ := reply_of_received received
      exact ⟨_, spends, .accepted reply accepted⟩
  | challenged opening challenged meeting =>
      obtain ⟨spends, received⟩ := way_of_opening sends fallback_answer read opening
      obtain ⟨rfl, reply⟩ := reply_of_received received
      exact way_of_meeting sends fallback_answer realm_answer spends reply challenged meeting

end Ways
end Service
end HttpAuth
