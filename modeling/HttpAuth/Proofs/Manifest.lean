import HttpAuth.Proofs.Bearer
import HttpAuth.Proofs.PathPrefix
import HttpAuth.Proofs.Release
import HttpAuth.Registry

/-!
# What fetching a manifest does

The whole program: it makes one client and closes it last, closes every response that the client
hands out, asks for the manifest twice at most and for a token once at most, and sends the
credentials of the environment to the token service alone.
-/

namespace HttpAuth

open Run Network

namespace Service

open Authenticator

/-! ## Requests over HTTP -/

/-- The contents of the responses of the client. -/
abbrev received (owner : Owner) (body : Body) (_ : Option Hook) : Content :=
  body.received owner

/-- The token that the second reply of the client holds. -/
def GivesToken (format : TokenFormat) (client : Script) (token : Text) : Prop :=
  ∃ status headers body hook,
    client.pending[1]? = some (.response status headers body hook) ∧
      tokenIn format (body.received (.reply .client (client.served + 1))) = .ok token

/-- What is asked for: the same request twice at most, the second time with a token, and in between
a token, with the credentials for the token service and without content. -/
inductive Asks (format : TokenFormat) (credentials : Headers) (request : Headers → Event)
    (headers : Headers) (client : Script) : List Event → Prop where
  /-- No token is asked for. -/
  | once : Asks format credentials request headers client [request headers]
  /-- A token is asked for. -/
  | exchanged {method url} : Asks format credentials request headers client
      [request headers, .send method url credentials none]
  /-- The token is sent. -/
  | retried {method url token} (gives : GivesToken format client token) :
      Asks format credentials request headers client
        [request headers, .send method url credentials none,
          request (headers ++ ⟨[("Authorization".toList, "Bearer ".toList ++ token)]⟩)]

/-- The response is the reply to the last of the requests. -/
def AnswersLast (client : Script) (contacts : List Event) (response : Response) : Prop :=
  ∃ body hook, client.pending[contacts.length - 1]? =
      some (.response response.status response.headers body hook) ∧
    response.body = body.received (.reply .client (client.served + (contacts.length - 1)))

theorem requested_client {events : List Event}
    (sends : ∀ event ∈ events, event.isRequestTo .client) :
    requested .client events = events.length :=
  List.countP_eq_length.mpr sends

theorem answersLast_of_reply {network : Network} {earlier : List Event} {last : Event}
    {response : Response} (sends : ∀ event ∈ earlier, event.isRequestTo .client)
    (replied : (network.spent earlier).reply .client received = .ok response) :
    AnswersLast network.client (earlier ++ [last]) response := by
  obtain ⟨body, hook, reply, body_eq⟩ := reply_eq_ok_of_spent replied
  rw [requested_client sends] at reply body_eq
  refine ⟨body, hook, ?_⟩
  rw [List.length_append, List.length_singleton, Nat.add_sub_cancel]
  exact ⟨reply, body_eq⟩

/-- A failure answers nothing. -/
theorem answersLast_of_error {client : Script} {contacts : List Event} {failure : Failure} :
    ∀ response, Except.error failure = .ok response → AnswersLast client contacts response := by
  intro response same
  cases same

/-- A request without content over HTTP has the headers that it is given. -/
theorem send_of_mem_requests {secure : Bool} {host : Text} {port : Int} {line : Option Text}
    {headers : Headers} {event : Event}
    (member : event ∈ (Endpoint.remote secure host port).requests line headers .none) :
    ∃ method url, event = .send method url headers none := by
  rw [Endpoint.requests] at member
  split at member
  · rename_i read data _ empty
    obtain rfl : [] = data := Except.ok.inj empty
    exact ⟨_, _, List.mem_singleton.mp member⟩
  · cases member

section Http

variable {format : TokenFormat} {credentials : Headers} {request : Headers → Event}
variable {headers : Headers} {network : Network} {contacts : List Event}

/-- Over HTTP and with no other credentials, an answer comes of the reply to a request for a token,
or it is empty. -/
theorem answers_http {answer : Except Failure Headers}
    (answers : Answers .http format .empty credentials network headers contacts answer) :
    (contacts = [] ∧ ∀ second, answer = .ok second → second = .empty) ∨
      ∃ method url, contacts = [.send method url credentials none] ∧
        answer = tokenHeaders format (network.reply .client received) := by
  cases answers with
  | handed handed => exact .inl ⟨rfl, fun second same => (Except.ok.inj same).symm⟩
  | unsplittable search refused => exact .inl ⟨rfl, nofun⟩
  | unsent search accepted none_made => exact .inl ⟨rfl, nofun⟩
  | @exchanged challenge target sent search accepted made =>
      have member : sent ∈ (Dialer.http.endpoint target).requests
          (some (target.line "GET".toList)) credentials .none := by
        rw [made]
        exact List.mem_singleton_self sent
      obtain ⟨method, url, rfl⟩ := send_of_mem_requests member
      exact .inr ⟨method, url, rfl, rfl⟩

/-- A token is given by the reply behind the first one. -/
theorem givesToken_of_answer {first : Event} {second : Headers}
    (sends : first.isRequestTo .client)
    (answered : .ok second = tokenHeaders format ((network.spent [first]).reply .client received)) :
    ∃ token, GivesToken format network.client token ∧ second = bearerHeaders token := by
  cases replied : (network.spent [first]).reply .client received with
  | error failure =>
      rw [replied] at answered
      cases answered
  | ok response =>
      obtain ⟨body, hook, reply, body_eq⟩ := reply_eq_ok_of_spent replied
      have one : requested .client [first] = 1 :=
        requested_client fun event member => List.mem_singleton.mp member ▸ sends
      rw [one] at reply body_eq
      rw [replied] at answered
      change Except.ok second = (tokenIn format response.body).map bearerHeaders at answered
      cases found : tokenIn format response.body with
      | error failure =>
          rw [found] at answered
          cases answered
      | ok token =>
          rw [found] at answered
          rw [body_eq] at found
          exact ⟨token, ⟨_, _, body, hook, reply, found⟩, Except.ok.inj answered⟩

/-- A request over HTTP with a Bearer authenticator that has no other credentials asks for nothing
else, and returns the reply to the last request. -/
theorem asks_of_way {outcome : Except Failure Response}
    (sends : ∀ headers, (request headers).isRequestTo .client)
    (way : Way .http format .empty credentials request .client received headers network contacts
      outcome) :
    Asks format credentials request headers network.client contacts ∧
      ∀ response, outcome = .ok response → AnswersLast network.client contacts response := by
  have plain : headers ++ Headers.empty = headers := headers.append_empty
  have first_only {response : Response}
      (reply : network.reply .client received = .ok response) :
      AnswersLast network.client [request headers] response := by
    have nothing_spent : (network.spent []).untraced = network.untraced := by
      rw [spent_nil]
      rfl
    rw [← reply_of_untraced nothing_spent] at reply
    exact answersLast_of_reply (List.forall_mem_nil _) reply
  have asked {exchange : List Event} {received : Headers} {answer : Except Failure Headers}
      (answers : Answers .http format .empty credentials
        (network.spent [request (headers ++ .empty)]) received exchange answer) :
      Asks format credentials request headers network.client
        (request (headers ++ .empty) :: exchange) := by
    rw [plain]
    rcases answers_http answers with ⟨rfl, -⟩ | ⟨method, url, rfl, -⟩
    · exact .once
    · exact .exchanged
  cases way with
  | lost reply => exact ⟨by rw [plain]; exact .once, answersLast_of_error⟩
  | accepted reply accepted =>
      rw [plain]
      refine ⟨.once, fun response same => ?_⟩
      obtain rfl := Except.ok.inj same
      exact first_only reply
  | unmet reply challenged answers => exact ⟨asked answers, answersLast_of_error⟩
  | unreleased reply challenged answers => exact ⟨asked answers, answersLast_of_error⟩
  | declined reply challenged answers nothing =>
      refine ⟨asked answers, fun response same => ?_⟩
      obtain rfl := Except.ok.inj same
      rcases answers_http answers with ⟨rfl, -⟩ | ⟨method, url, rfl, answered⟩
      · rw [plain]
        exact first_only reply
      · obtain ⟨token, -, rfl⟩ := givesToken_of_answer (sends _) answered
        cases nothing
  | retried reply challenged answers something =>
      rcases answers_http answers with ⟨rfl, unanswered⟩ | ⟨method, url, rfl, answered⟩
      · rw [unanswered _ rfl] at something
        cases something
      · obtain ⟨token, gives, rfl⟩ := givesToken_of_answer (sends _) answered
        rw [plain]
        refine ⟨.retried gives, fun response replied => ?_⟩
        refine answersLast_of_reply (fun event member => ?_) replied
        rcases List.mem_cons.mp member with rfl | exchanged
        · exact sends _
        · rw [List.mem_singleton.mp exchanged]
          rfl

end Http

/-- A request that cannot be sent fails and takes no reply. -/
theorem spends_refused {send : Headers → Body → Run Response} {authenticator : Authenticator}
    {given : Headers} {failure : Failure}
    (refused : ∀ headers body, send headers body = throw failure)
    (answer : authenticator.answer .empty = pure given) (line : Option Text) (headers : Headers)
    (network : Network) :
    let call := authenticate send authenticator line headers .none
    Spends network (final call network) [] ∧ result call network = .error failure := by
  intro call
  have finished : finish call network =
      ((network.observe ((Body.none).toContent .caller).read.events).observe
        [.log (.sending line given.size)], .error failure) := by
    simp only [call, authenticate, answer, refused, finish_bind, finish_readBody, finish_pure,
      finish_log, finish_throw]
    rfl
  rw [final_eq, Run.result_eq, finished]
  exact ⟨(Spends.of_read _).trans (.of_log _), rfl⟩

end Service

namespace Registry

/-! ## The request for a manifest -/

/-- The target of the line for a manifest. -/
def manifestTarget (image tag : Text) : Text :=
  '/' :: image ++ "/manifests/".toList ++ tag

/-- The URL of a manifest. -/
def manifestUrl (image tag : Text) : Text :=
  "https://registry-1.docker.io:443/v2/".toList ++ image ++ "/manifests/".toList ++ tag

/-- The request for a manifest as it is sent. -/
def manifestRequest (image tag : Text) (headers : Headers) : Event :=
  .send "GET".toList (manifestUrl image tag) headers none

/-- The endpoint of the registry. -/
def endpoint : Endpoint :=
  .ofHost true host none

section Lines

variable (image tag : Text)

theorem manifestLine_eq :
    manifestLine image tag = (RequestLine.get (manifestTarget image tag)).text := by
  have regroup (method between version : Text) :
      (method ++ [' ', '/']) ++ image ++ between ++ tag ++ ' ' :: version =
        method ++ ' ' :: ('/' :: image ++ between ++ tag) ++ ' ' :: version := by
    simp
  exact regroup "GET".toList "/manifests/".toList "HTTP/1.1".toList

theorem space_mem_manifestTarget_iff :
    ' ' ∈ manifestTarget image tag ↔ ' ' ∈ image ∨ ' ' ∈ tag := by
  have general {between : Text} (word : ' ' ∉ between) :
      ' ' ∈ '/' :: image ++ between ++ tag ↔ ' ' ∈ image ∨ ' ' ∈ tag := by
    simp [word]
  have between : ' ' ∉ "/manifests/".toList := by decide
  exact general between

theorem url_manifest : Endpoint.url true host 443 (root ++ manifestTarget image tag) =
    manifestUrl image tag := by
  have base : Endpoint.base true host 443 ++ root ++ ['/'] =
      "https://registry-1.docker.io:443/v2/".toList := by
    decide +kernel
  have regroup (start path between : Text) :
      start ++ (path ++ ('/' :: image ++ between ++ tag)) =
        start ++ path ++ ['/'] ++ image ++ between ++ tag := by
    simp
  have rooted : Endpoint.urlTarget (root ++ manifestTarget image tag) =
      root ++ manifestTarget image tag := rfl
  calc
    Endpoint.url true host 443 (root ++ manifestTarget image tag)
      = Endpoint.base true host 443 ++ (root ++ manifestTarget image tag) := by
        rw [Endpoint.url, rooted]
    _ = Endpoint.base true host 443 ++ root ++ ['/'] ++ image ++ "/manifests/".toList ++ tag :=
        regroup _ _ _
    _ = manifestUrl image tag := by
        rw [base]
        rfl

/-- The path of the registry stands in front of the target of a line. -/
theorem lineUnder_root (target : Text) :
    Service.lineUnder root (.get target) = .get (root ++ target) := by
  have kept : joinedPaths [root] = root := rfl
  rw [Service.lineUnder_eq, kept]
  rfl

/-- A space in the image or in the tag makes a line that cannot be read. -/
theorem parse_manifestLine_of_space (space : ' ' ∈ image ∨ ' ' ∈ tag) :
    RequestLine.parse (some (manifestLine image tag)) =
      .error (.malformed (some (manifestLine image tag))) := by
  rw [manifestLine_eq]
  exact RequestLine.parse_text_of_space ((space_mem_manifestTarget_iff image tag).mpr space)
    (RequestLine.tight_get _)

variable {image tag}

theorem parse_manifestLine (words : ¬(' ' ∈ image ∨ ' ' ∈ tag)) :
    RequestLine.parse (some (manifestLine image tag)) = .ok (.get (manifestTarget image tag)) := by
  rw [manifestLine_eq]
  exact RequestLine.parse_get (List.cons_ne_nil _ _)
    (mt (space_mem_manifestTarget_iff image tag).mp words)

/-- The registry is sent the request for a manifest. -/
theorem requests_manifest (words : ¬(' ' ∈ image ∨ ' ' ∈ tag)) (headers : Headers) :
    endpoint.requests (some (RequestLine.get (root ++ manifestTarget image tag)).text) headers
        (.bytes []) = [manifestRequest image tag headers] := by
  have word : ' ' ∉ root ++ manifestTarget image tag := by
    have root_word : ' ' ∉ root := by decide
    rw [List.mem_append, space_mem_manifestTarget_iff]
    exact fun member => member.elim root_word words
  have filled : root ++ manifestTarget image tag ≠ [] :=
    List.append_ne_nil_of_left_ne_nil (by decide) _
  have read := RequestLine.parse_get filled word
  have endpoint_eq : endpoint = .remote true host 443 := rfl
  rw [endpoint_eq, Endpoint.requests, read, manifestRequest, ← url_manifest]
  rfl

/-- A request to the registry for a manifest is one to its endpoint. -/
theorem respond_manifest (words : ¬(' ' ∈ image ∨ ' ' ∈ tag)) (headers : Headers) (body : Body) :
    (Service.under (.direct endpoint) root).respond (some (manifestLine image tag)) headers body =
      endpoint.respond (some (RequestLine.get (root ++ manifestTarget image tag)).text) headers
        body := by
  rw [Service.respond, parse_manifestLine words, ← lineUnder_root]
  rfl

end Lines

/-! ## Credentials -/

/-- The credentials for the token service. -/
def tokenCredentials (environment : Environment) : Headers :=
  match environment.value? "REGISTRY_USERNAME".toList,
    environment.value? "REGISTRY_PASSWORD".toList with
  | some username, some password =>
      if username = [] ∨ password = [] then .empty
      else ⟨[("Authorization".toList,
        "Basic ".toList ++ Base64.encode (Utf8.encode (username ++ ':' :: password)))]⟩
  | _, _ => .empty

/-- The authenticator for the token service always gives the credentials. -/
theorem answer_credentials (environment : Environment) (headers : Headers) :
    (credentials environment).answer headers = pure (tokenCredentials environment) := by
  rw [credentials, tokenCredentials]
  generalize environment.value? "REGISTRY_USERNAME".toList = username?,
    environment.value? "REGISTRY_PASSWORD".toList = password?
  cases username? with
  | none => rfl
  | some username =>
      cases password? with
      | none =>
          rw [Option.getD_none, List.isEmpty_nil, Bool.or_true]
          rfl
      | some password =>
          simp only [Option.getD_some, Bool.or_eq_true, List.isEmpty_iff]
          split <;> rfl

/-! ## The request with credentials -/

/-- The format of the answers of the token service. -/
def format (levels : Nat) : TokenFormat :=
  .json "token".toList levels

/-- The registry under its path. -/
def registry : Service :=
  .under (.direct endpoint) root

section Program

variable (levels : Nat) (environment : Environment) (image tag : Text) (network : Network)

/-- The request of the program. -/
def call : Run Response :=
  (service levels (credentials environment)).respond (some (manifestLine image tag)) accept .none

theorem call_eq : call levels environment image tag =
    Service.authenticate
      (fun headers body => registry.respond (some (manifestLine image tag)) headers body)
      (.bearer .http (format levels) .anonymous (credentials environment))
      (some (manifestLine image tag)) accept .none := rfl

theorem returns_call : Returns (call levels environment image tag) := by
  have direct : Service.ReturnsReplies (.direct endpoint) := fun line headers body =>
    Endpoint.returns_remote line headers body true host 443
  have returns : registry.ReturnsReplies := Service.returnsReplies_underAll direct [root]
  intro network
  rw [call_eq]
  exact Service.returned_of_course (returns _) (Service.course_of_authenticate _ _ _ _ _ _)

variable {image tag}

/-- A line that cannot be read is not sent. -/
theorem call_of_space (space : ' ' ∈ image ∨ ' ' ∈ tag) :
    Spends network (final (call levels environment image tag) network) [] ∧
      result (call levels environment image tag) network =
        .error (.requestLine (.malformed (some (manifestLine image tag)))) := by
  have refused (headers : Headers) (body : Body) :
      registry.respond (some (manifestLine image tag)) headers body =
        throw (.requestLine (.malformed (some (manifestLine image tag)))) := by
    rw [registry, Service.respond, parse_manifestLine_of_space image tag space]
    rfl
  rw [call_eq]
  exact Service.spends_refused refused rfl _ _ network

/-- A line that can be read is asked for. -/
theorem call_of_words (words : ¬(' ' ∈ image ∨ ' ' ∈ tag)) :
    ∃ contacts, Spends network (final (call levels environment image tag) network) contacts ∧
      Service.Asks (format levels) (tokenCredentials environment) (manifestRequest image tag) accept
        network.client contacts ∧
      ∀ response, result (call levels environment image tag) network = .ok response →
        Service.AnswersLast network.client contacts response := by
  have sends : Service.Sends
      (fun headers body => registry.respond (some (manifestLine image tag)) headers body) []
      (manifestRequest image tag) .client Service.received := by
    have same : (fun headers body =>
        registry.respond (some (manifestLine image tag)) headers body) = fun headers body =>
          endpoint.respond (some (RequestLine.get (root ++ manifestTarget image tag)).text) headers
            body := by
      funext headers body
      exact respond_manifest words headers body
    rw [same]
    exact Service.sends_of_requests (requests_manifest words)
  have goes : ∃ contacts,
      Spends network (final (call levels environment image tag) network) contacts ∧
      Service.Way .http (format levels) .empty (tokenCredentials environment)
        (manifestRequest image tag) .client Service.received accept network contacts
        (result (call levels environment image tag) network) := by
    rw [call_eq]
    exact Service.way_of_authenticate sends (fun headers => rfl)
      (answer_credentials environment .empty) rfl network
  obtain ⟨contacts, spends, way⟩ := goes
  have asks := Service.asks_of_way (fun headers => rfl) way
  exact ⟨contacts, spends, asks⟩

variable (image tag)

/-- The contacts of the request, and what is returned. -/
theorem call_goes :
    ∃ contacts, Spends network (final (call levels environment image tag) network) contacts ∧
      (' ' ∈ image ∨ ' ' ∈ tag → contacts = [] ∧
        result (call levels environment image tag) network =
          .error (.requestLine (.malformed (some (manifestLine image tag))))) ∧
      (¬(' ' ∈ image ∨ ' ' ∈ tag) → Service.Asks (format levels) (tokenCredentials environment)
        (manifestRequest image tag) accept network.client contacts) ∧
      ∀ response, result (call levels environment image tag) network = .ok response →
        Service.AnswersLast network.client contacts response := by
  by_cases space : ' ' ∈ image ∨ ' ' ∈ tag
  · obtain ⟨spends, refused⟩ := call_of_space levels environment network space
    refine ⟨[], spends, fun _ => ⟨rfl, refused⟩, fun words => absurd space words, ?_⟩
    intro response returned
    rw [refused] at returned
    cases returned
  · obtain ⟨contacts, spends, asks, answers⟩ := call_of_words levels environment network space
    exact ⟨contacts, spends, fun other => absurd other space, fun _ => asks, answers⟩

/-! ## The program -/

/-- What the program ends with once a response was read. -/
def exitOf (response : Response) (data : Octets) : Exit :=
  { code := if response.status = 200 then 0 else 1
    output := report response.status data }

variable {image tag}

theorem finish_fetch : finish (fetch levels (credentials environment) image tag) network =
    match finish (call levels environment image tag) network with
    | (middle, .error failure) => (middle, .error failure)
    | (middle, .ok response) =>
        (middle.observe response.body.read.events,
          response.body.read.result.map (exitOf response)) := by
  have fetch_eq : fetch levels (credentials environment) image tag = (do
      let response ← call levels environment image tag
      let data ← ofOutcome response.body.read
      return exitOf response data) := rfl
  rw [fetch_eq, finish_bind]
  rcases finish (call levels environment image tag) network with ⟨middle, _ | response⟩
  · rfl
  · simp only [finish_bind, finish_ofOutcome]
    cases response.body.read.result <;> rfl

/-- The program reads the response of its request and makes no more requests. -/
theorem spends_fetch {contacts : List Event}
    (spends : Spends network (final (call levels environment image tag) network) contacts) :
    Spends network (final (fetch levels (credentials environment) image tag) network) contacts := by
  rw [final_eq] at spends
  rw [final_eq, finish_fetch]
  rcases called : finish (call levels environment image tag) network with ⟨middle, _ | response⟩
  · rwa [called] at spends
  · rw [called] at spends
    have read := spends.trans (.of_read response.body)
    rwa [List.append_nil] at read

/-- The program fails if its request does. -/
theorem result_fetch_of_error {failure : Failure}
    (failed : result (call levels environment image tag) network = .error failure) :
    result (fetch levels (credentials environment) image tag) network = .error failure := by
  rw [result_eq] at failed
  rw [result_eq, finish_fetch]
  rcases called : finish (call levels environment image tag) network with
    ⟨middle, reason | response⟩
  · rw [called] at failed
    obtain rfl := Except.error.inj failed
    rfl
  · rw [called] at failed
    cases failed

/-- The program ends well if its request does, and its response can be read. -/
theorem result_fetch_eq_ok {exit : Exit}
    (ended : result (fetch levels (credentials environment) image tag) network = .ok exit) :
    ∃ response data, result (call levels environment image tag) network = .ok response ∧
      response.body.read.result = .ok data ∧ exit = exitOf response data := by
  rw [result_eq, finish_fetch] at ended
  rw [result_eq]
  rcases called : finish (call levels environment image tag) network with
    ⟨middle, failure | response⟩
  · rw [called] at ended
    cases ended
  · rw [called] at ended
    change response.body.read.result.map (exitOf response) = .ok exit at ended
    cases read : response.body.read.result with
    | error failure =>
        rw [read] at ended
        cases ended
    | ok data =>
        rw [read] at ended
        exact ⟨response, data, rfl, read, (Except.ok.inj ended).symm⟩

/-- Reading the response releases it. -/
theorem keeps_fetch : Keeps (fetch levels (credentials environment) image tag) := by
  have settled : Keeps (call levels environment image tag >>= fun response => do
      let data ← ofOutcome response.body.read
      return exitOf response data) := by
    refine keeps_bind_hands (returns_call levels environment image tag).hands ?_
    intro response owed hand network
    have read := hand.read network
    rw [final_eq, finish_ofOutcome] at read
    rw [final_eq, finish_bind, finish_ofOutcome]
    cases response.body.read.result <;> exact read
  exact settled

/-- The client is made first and closed last. -/
theorem finish_fetchWith (settings : Settings) :
    finish (fetchWith levels settings (credentials environment) image tag) network =
      match finish (fetch levels (credentials environment) image tag)
        (network.observe [.clientOpen settings.clientOptions]) with
      | (after, outcome) => (after.observe [.clientClose], outcome) := by
  simp only [fetchWith, Client.make, Client.during, ensuring, Client.close, finish_bind,
    finish_emit, finish_pure, if_true, finish_tryCatch, bind_assoc, pure_bind]
  rcases finish (fetch levels (credentials environment) image tag)
    (network.observe [.clientOpen settings.clientOptions]) with ⟨after, _ | exit⟩ <;> rfl

variable (image tag)

/-- The responses of the client are settled at the end. -/
theorem keeps_fetchWith (settings : Settings) :
    Keeps (fetchWith levels settings (credentials environment) image tag) := by
  intro network
  let opened := network.observe [.clientOpen settings.clientOptions]
  have opening : Ledger network opened [] [] := .of_unrelated [] rfl rfl (by simp [Event.owner?])
  have fetching :
      Ledger opened (final (fetch levels (credentials environment) image tag) opened) [] [] :=
    keeps_fetch levels environment opened
  have closing (after : Network) : Ledger after (after.observe [.clientClose]) [] [] :=
    .of_unrelated [] rfl rfl (by simp [Event.owner?])
  rw [final_eq, finish_fetchWith]
  exact (opening.trans fetching).trans (closing _)

/-- What the program does between making its client and closing it, and what it ends with. -/
structure Fetches (before after : Network) (events : List Event) (outcome : Except Failure Exit) :
    Prop where
  /-- No other client is made, and no client is closed. -/
  inner : ∀ event ∈ events, event.isClient = false
  /-- Every response that the client has handed out is closed exactly once. -/
  released : ∀ number ∈ before.handedOut after, events.count (.close (.reply .client number) 0) = 1
  /-- With a space in the image or in the tag nothing is asked for. -/
  refused : ' ' ∈ image ∨ ' ' ∈ tag → events.filter Event.isContact = [] ∧
    outcome = .error (.requestLine (.malformed (some (manifestLine image tag))))
  /-- Otherwise the manifest is asked for, and with a token once more. -/
  asks : ¬(' ' ∈ image ∨ ' ' ∈ tag) →
    Service.Asks (format levels) (tokenCredentials environment) (manifestRequest image tag)
      ⟨[("Accept".toList, "application/vnd.docker.distribution.manifest.list.v2+json".toList)]⟩
      before.client (events.filter Event.isContact)
  /-- The exit code and the output tell of the reply to the last request. -/
  ended : ∀ exit, outcome = .ok exit → ∃ response data,
    Service.AnswersLast before.client (events.filter Event.isContact) response ∧
      response.body.read.result = .ok data ∧
      exit =
        { code := if response.status = 200 then 0 else 1
          output := "Status: ".toList ++ (toString response.status).toList ++
            '\n' :: (Utf8.decodeLenient data).take 2000 ++ ['\n'] }

theorem fetchWith_fetches (settings : Settings) :
    let action := fetchWith levels settings (credentials environment) image tag
    ∃ events, observed action network =
        .clientOpen settings.clientOptions :: (events ++ [.clientClose]) ∧
      Fetches levels environment image tag network (final action network) events
        (result action network) := by
  intro action
  let fetching := fetch levels (credentials environment) image tag
  let opened := network.observe [.clientOpen settings.clientOptions]
  have finished : finish action network =
      ((final fetching opened).observe [.clientClose], result fetching opened) :=
    finish_fetchWith levels environment network settings
  obtain ⟨contacts, spends, refused, asks, answers⟩ := call_goes levels environment image tag opened
  obtain ⟨events, trace_eq, rfl, inner⟩ := (spends_fetch levels environment opened spends).observed
  have observed_eq : observed action network =
      .clientOpen settings.clientOptions :: (events ++ [.clientClose]) := by
    apply observed_of_trace
    rw [final_eq, finished, trace_observe, trace_eq, trace_observe, List.append_assoc,
      List.append_assoc]
    rfl
  have result_eq : result action network = result fetching opened := by
    rw [Run.result_eq, finished]
  refine ⟨events, observed_eq, inner, ?_, ?_, asks, ?_⟩
  · intro number member
    have accounts := (Ledger.observed_eq
      (keeps_fetchWith levels environment image tag settings network) number).1
    rw [if_pos member, List.count_nil, Nat.add_zero, observed_eq] at accounts
    simpa [Event.release] using accounts
  · intro space
    obtain ⟨none_made, failed⟩ := refused space
    rw [result_eq]
    exact ⟨none_made, result_fetch_of_error levels environment opened failed⟩
  · intro exit ended
    rw [result_eq] at ended
    obtain ⟨response, data, returned, read, rfl⟩ :=
      result_fetch_eq_ok levels environment opened ended
    exact ⟨response, data, answers response returned, read, rfl⟩

/-- The whole program.  Once the settings can be read it makes one client and closes it at the very
end, whatever happens.  In between, every response that the client hands out is closed exactly
once.  The manifest is asked for twice at most, with the media types alone and then with a fresh
token, and the credentials of the environment go to the token service alone. -/
theorem program_fetches_manifest :
    match environment.settings Environment.defaultStart with
    | .error error => program levels environment [image, tag] = .error error
    | .ok settings => ∃ action, program levels environment [image, tag] = .ok action ∧
        ∃ events, observed action network =
            .clientOpen settings.clientOptions :: (events ++ [.clientClose]) ∧
          Fetches levels environment image tag network (final action network) events
            (result action network) := by
  cases read : environment.settings Environment.defaultStart with
  | error error =>
      rw [program, read]
      rfl
  | ok settings =>
      refine ⟨_, ?_, fetchWith_fetches levels environment image tag network settings⟩
      rw [program, read]
      rfl

end Program

/-- A challenge is met with a token, for which the credentials are sent, and the manifest is
found. -/
theorem program_fetches_challenged_manifest :
    let environment : Environment :=
      [("REGISTRY_USERNAME".toList, ['u']), ("REGISTRY_PASSWORD".toList, ['p'])]
    let challenge : Headers :=
      .single "WWW-Authenticate".toList "Bearer realm=\"https://auth.docker.io/token\"".toList
    let token : Body := .bytes (Utf8.encode "\x7b\"token\":\"t\"\x7d".toList)
    let network : Network :=
      { client :=
          { pending := [.response 401 challenge .none none, .response 200 .empty token none,
              .response 200 .empty .none none] } }
    let accepted : Text × Text :=
      ("Accept".toList, "application/vnd.docker.distribution.manifest.list.v2+json".toList)
    environment.settings Environment.defaultStart = .ok {} ∧
      ∃ action events, program 900 environment [defaultImage, defaultTag] = .ok action ∧
        observed action network =
          .clientOpen (Settings.clientOptions {}) :: (events ++ [.clientClose]) ∧
        Fetches 900 environment defaultImage defaultTag network (final action network) events
          (result action network) ∧
        events.filter Event.isContact =
          [manifestRequest defaultImage defaultTag ⟨[accepted]⟩,
            .send "GET".toList "https://auth.docker.io:443/token".toList
              ⟨[("Authorization".toList, "Basic dTpw".toList)]⟩ none,
            manifestRequest defaultImage defaultTag
              ⟨[accepted, ("Authorization".toList, "Bearer t".toList)]⟩] ∧
        result action network = .ok { code := 0, output := "Status: 200\n\n".toList } := by
  intro environment challenge token network accepted
  have read : environment.settings Environment.defaultStart = .ok {} := by rfl
  have fetched := program_fetches_manifest 900 environment defaultImage defaultTag network
  rw [read] at fetched
  obtain ⟨action, made, events, observed_eq, fetches⟩ := fetched
  have run : (program 900 environment [defaultImage, defaultTag]).toOption.map (fun action =>
      ((observed action network).filter Event.isContact, (result action network).toOption)) =
      some ([manifestRequest defaultImage defaultTag ⟨[accepted]⟩,
        .send "GET".toList "https://auth.docker.io:443/token".toList
          ⟨[("Authorization".toList, "Basic dTpw".toList)]⟩ none,
        manifestRequest defaultImage defaultTag
          ⟨[accepted, ("Authorization".toList, "Bearer t".toList)]⟩],
        some { code := 0, output := "Status: 200\n\n".toList }) := by
    decide +kernel
  rw [made] at run
  obtain ⟨contacts_eq, ended⟩ := Prod.mk.inj (Option.some.inj run)
  have inner : (observed action network).filter Event.isContact =
      events.filter Event.isContact := by
    rw [observed_eq, List.filter_cons_of_neg (by decide), List.filter_append]
    exact List.append_nil _
  exact ⟨read, action, events, made, observed_eq, fetches, inner ▸ contacts_eq,
    eq_ok_of_toOption ended⟩

end Registry
end HttpAuth
