import HttpAuth.Proofs.Contacts
import HttpAuth.Proofs.Realm
import HttpAuth.Proofs.Target

/-!
# The exchange of a challenge for a token

A Bearer authenticator works with parties of any behaviour, which act on a world of which nothing is
known; the authenticator that runs is the case in which the world is the network.  A usable
challenge makes it call each party once and in order, until one of them fails, and never its
fallback, as parties show that note their calls.  The status and the header fields of the response
have no influence on the calls and on the result.
-/

namespace HttpAuth

/-! ## Computations in a world -/

/-- A computation that changes a world and may fail. -/
abbrev Act (World : Type) := EStateM Failure World

namespace Act

variable {World α β : Type}

/-- The world after a computation, and its result. -/
def finish (act : Act World α) (world : World) : World × Except Failure α :=
  match act.run world with
  | .ok value after => (after, .ok value)
  | .error failure after => (after, .error failure)

@[simp]
theorem finish_bind (act : Act World α) (next : α → Act World β) (world : World) :
    finish (act >>= next) world =
      match finish act world with
      | (middle, .ok value) => finish (next value) middle
      | (middle, .error failure) => (middle, .error failure) := by
  simp only [finish, EStateM.run, bind, EStateM.bind]
  cases act world <;> rfl

@[simp]
theorem finish_modify (change : World → World) (world : World) :
    finish (modify change : Act World Unit) world = (change world, .ok ()) := rfl

@[simp]
theorem finish_modifyGet (change : World → α × World) (world : World) :
    finish (modifyGet change : Act World α) world = ((change world).2, .ok (change world).1) := rfl

@[simp]
theorem finish_ofExcept (outcome : Except Failure α) (world : World) :
    finish (ofExcept outcome : Act World α) world = (world, outcome) := by
  cases outcome <;> rfl

end Act

/-! ## Parties -/

/-- A way to send a request line, headers and a body. -/
abbrev Sender (World : Type) := Option Text → Headers → Body → Act World Response

/-- What a Bearer authenticator works with. -/
structure Parties (World : Type) where
  /-- The world once an event is observed in it. -/
  observe : Event → World → World
  /-- The way to a host, over TLS or not, with a port if there is one. -/
  dial : Bool → Text → Option Int → World → Sender World × World
  /-- The authenticator for the token service. -/
  realmAuth : Headers → Act World Headers
  /-- The authenticator for headers without a usable challenge. -/
  fallback : Headers → Act World Headers
  /-- The token in a body. -/
  token : Octets → Except Failure Text

namespace Parties

variable {World : Type} (parties : Parties World)

/-- Log a record. -/
def log (record : LogRecord) : Act World Unit :=
  modify (parties.observe (.log record))

/-- The world once events are observed in it. -/
def observeAll (events : List Event) (world : World) : World :=
  events.foldl (fun world event => parties.observe event world) world

/-- The credentials that the body of a response holds. -/
def headersIn (response : Response) : Except Failure Headers := do
  let content ← response.body.read.result
  let token ← parties.token content
  return Authenticator.bearerHeaders token

/-- Read the token in a response. -/
def readToken (target : RealmTarget) (response : Response) : Act World Headers := do
  if !Authenticator.isSuccess response.status then
    parties.log (.realmStatus target.host response.status)
  modify (parties.observeAll response.body.read.events)
  ofExcept (parties.headersIn response)

/-- Fetch a token for a target. -/
def fetch (target : RealmTarget) : Act World Headers := do
  let send ← modifyGet (parties.dial target.secure target.host (target.port.map Int.ofNat))
  parties.log (.requestingToken target)
  let credentials ← parties.realmAuth .empty
  let response ← send (some (target.line "GET".toList)) credentials .none
  parties.readToken target response

/-- Answer the headers of a response. -/
def answer (headers : Headers) : Act World Headers := do
  let (ignored, found) := Challenge.findBearer headers
  ignored.forM fun error => parties.log (.malformedChallenge error)
  match found with
  | none => parties.fallback headers
  | some challenge =>
      match challenge.target with
      | .ok target => parties.fetch target
      | .error (.unsplittable error) => throw (.realmUri error)
      | .error error => do
          parties.log (.unusableChallenge error)
          parties.fallback headers

end Parties

namespace Authenticator

/-- The parties of a Bearer authenticator, in the network. -/
def parties (dialer : Dialer) (format : TokenFormat) (fallback realmAuth : Authenticator) :
    Parties Network where
  observe event network := network.observe [event]
  dial secure host port network :=
    match dialer with
    | .recorded => ((Endpoint.party .realm).respond, network.observe [.dial secure host port])
    | .http => ((Endpoint.ofHost secure host port).respond, network)
  realmAuth := realmAuth.answer
  fallback := fallback.answer
  token content := (format.token content).mapError .token

section Parties

variable (dialer : Dialer) (format : TokenFormat) (fallback realmAuth : Authenticator)

theorem observeAll_parties (events : List Event) :
    (parties dialer format fallback realmAuth).observeAll events = (·.observe events) := by
  funext network
  induction events generalizing network with
  | nil => exact network.observe_nil.symm
  | cons event others induction =>
      exact (induction (network.observe [event])).trans (network.observe_append [event] others).symm

theorem readToken_parties (target : RealmTarget) (response : Response) :
    (parties dialer format fallback realmAuth).readToken target response =
      readToken format target response := by
  have extracting : (ofExcept ((parties dialer format fallback realmAuth).headersIn response) :
      Run Headers) = do
        let content ← Run.ofExcept id response.body.read.result
        let token ← Run.ofExcept .token (format.token content)
        return bearerHeaders token := by
    rw [Parties.headersIn]
    cases response.body.read.result with
    | error failure => rfl
    | ok content =>
        change ofExcept ((format.token content).mapError Failure.token >>= _) =
          (Run.ofExcept Failure.token (format.token content) >>= _)
        cases format.token content <;> rfl
  simp only [Parties.readToken, observeAll_parties, extracting, readToken, Run.ofOutcome,
    bind_assoc]
  rfl

theorem fetch_parties (target : RealmTarget) :
    (parties dialer format fallback realmAuth).fetch target =
      fetch dialer format (realmAuth.answer .empty) target := by
  simp only [Parties.fetch, readToken_parties]
  cases dialer <;> rfl

/-- A Bearer authenticator is the case of its parties. -/
theorem answer_parties :
    (parties dialer format fallback realmAuth).answer =
      (bearer dialer format fallback realmAuth).answer := by
  funext headers
  simp only [Parties.answer, fetch_parties]
  rfl

end Parties
end Authenticator

/-! ## Calls -/

/-- A call of a party. -/
inductive Parties.Call where
  /-- A way to a host is asked for. -/
  | dial (secure : Bool) (host : Text) (port : Option Int)
  /-- The authenticator for the token service is asked. -/
  | realmAuth (headers : Headers)
  /-- The fallback is asked. -/
  | fallback (headers : Headers)
  /-- A request is sent. -/
  | request (line : Option Text) (headers : Headers) (body : Body)
  deriving Repr, DecidableEq

namespace Act

variable {World α : Type}

/-- A computation that notes the call that it is. -/
def noted (call : Parties.Call) (act : Act World α) : Act (World × List Parties.Call) α :=
  fun (world, calls) =>
    match act world with
    | .ok value after => .ok value (after, calls ++ [call])
    | .error failure after => .error failure (after, calls ++ [call])

@[simp]
theorem finish_noted (call : Parties.Call) (act : Act World α) (world : World)
    (calls : List Parties.Call) :
    finish (noted call act) (world, calls) =
      (((finish act world).1, calls ++ [call]), (finish act world).2) := by
  simp only [finish, EStateM.run, noted]
  cases act world <;> rfl

end Act

namespace Parties

open Act

variable {World : Type} (parties : Parties World)

/-- The parties, and each notes its calls. -/
def noting : Parties (World × List Call) where
  observe event := fun (world, calls) => (parties.observe event world, calls)
  dial secure host port := fun (world, calls) =>
    let (send, opened) := parties.dial secure host port world
    (fun line headers body => noted (.request line headers body) (send line headers body),
      opened, calls ++ [.dial secure host port])
  realmAuth headers := noted (.realmAuth headers) (parties.realmAuth headers)
  fallback headers := noted (.fallback headers) (parties.fallback headers)
  token := parties.token

/-- The parties, and every response has this status and these header fields. -/
def restated (status : Int) (fields : Headers) : Parties World :=
  { parties with
    dial := fun secure host port world =>
      let (send, opened) := parties.dial secure host port world
      (fun line headers body => do
        let response ← send line headers body
        return { response with status, headers := fields }, opened) }

/-- The calls up to the request. -/
def opening (target : RealmTarget) : List Call :=
  [.dial target.secure target.host (target.port.map Int.ofNat), .realmAuth .empty]

/-- The calls up to the response. -/
def exchange (target : RealmTarget) (credentials : Headers) : List Call :=
  opening target ++ [.request (some (target.line "GET".toList)) credentials .none]

/-- The way to a target, and the world once it is asked for. -/
def way (target : RealmTarget) (before : World) : Sender World × World :=
  parties.dial target.secure target.host (target.port.map Int.ofNat) before

/-- The answer of the authenticator for the token service. -/
def asked (target : RealmTarget) (before : World) : World × Except Failure Headers :=
  finish (parties.realmAuth .empty)
    (parties.observe (.log (.requestingToken target)) (parties.way target before).2)

/-- The answer of the token service. -/
def sent (target : RealmTarget) (before : World) (credentials : Headers) (world : World) :
    World × Except Failure Response :=
  finish ((parties.way target before).1 (some (target.line "GET".toList)) credentials .none) world

/-- The world once a response is read; its status is logged if it is no success. -/
def heard (target : RealmTarget) (response : Response) (world : World) : World :=
  parties.observeAll response.body.read.events <|
    if Authenticator.isSuccess response.status then world
    else parties.observe (.log (.realmStatus target.host response.status)) world

/-- What is called for a target, in order: the world at the end, the result, and the calls. -/
inductive Course (target : RealmTarget) (before : World) :
    World → Except Failure Headers → List Call → Prop where
  /-- The authenticator for the token service fails. -/
  | unasked {after failure} (asking : parties.asked target before = (after, .error failure)) :
      Course target before after (.error failure) (opening target)
  /-- The request fails. -/
  | unsent {middle after credentials failure}
      (asking : parties.asked target before = (middle, .ok credentials))
      (sending : parties.sent target before credentials middle = (after, .error failure)) :
      Course target before after (.error failure) (exchange target credentials)
  /-- The body of the response cannot be read. -/
  | unread {middle answered credentials response failure}
      (asking : parties.asked target before = (middle, .ok credentials))
      (sending : parties.sent target before credentials middle = (answered, .ok response))
      (reading : response.body.read.result = .error failure) :
      Course target before (parties.heard target response answered) (.error failure)
        (exchange target credentials)
  /-- The chunks of the body hold no token. -/
  | tokenless {middle answered credentials response failure}
      (asking : parties.asked target before = (middle, .ok credentials))
      (sending : parties.sent target before credentials middle = (answered, .ok response))
      (reading : response.body.read.result = .ok response.body.supply.items.flatten)
      (extracting : parties.token response.body.supply.items.flatten = .error failure) :
      Course target before (parties.heard target response answered) (.error failure)
        (exchange target credentials)
  /-- The chunks of the body hold a token. -/
  | granted {middle answered credentials response token}
      (asking : parties.asked target before = (middle, .ok credentials))
      (sending : parties.sent target before credentials middle = (answered, .ok response))
      (reading : response.body.read.result = .ok response.body.supply.items.flatten)
      (extracting : parties.token response.body.supply.items.flatten = .ok token) :
      Course target before (parties.heard target response answered)
        (.ok ⟨[("Authorization".toList, "Bearer ".toList ++ token)]⟩) (exchange target credentials)

/-! ## Courses -/

theorem exists_course (target : RealmTarget) (before : World) :
    ∃ after outcome made, parties.Course target before after outcome made := by
  rcases asking : parties.asked target before with ⟨middle, failure | credentials⟩
  · exact ⟨_, _, _, .unasked asking⟩
  rcases sending : parties.sent target before credentials middle with
    ⟨answered, failure | response⟩
  · exact ⟨_, _, _, .unsent asking sending⟩
  cases reading : response.body.read.result with
  | error failure => exact ⟨_, _, _, .unread asking sending reading⟩
  | ok content =>
      obtain rfl := Content.read_result reading
      cases extracting : parties.token response.body.supply.items.flatten with
      | error failure => exact ⟨_, _, _, .tokenless asking sending reading extracting⟩
      | ok token => exact ⟨_, _, _, .granted asking sending reading extracting⟩

theorem headersIn_of_read {response : Response} {content : Octets}
    (reading : response.body.read.result = .ok content) :
    parties.headersIn response = (parties.token content).map Authenticator.bearerHeaders := by
  rw [headersIn, reading]
  change (parties.token content >>= _) = _
  cases parties.token content <;> rfl

theorem finish_readToken (target : RealmTarget) (response : Response) (world : World) :
    finish (parties.readToken target response) world =
      (parties.heard target response world, parties.headersIn response) := by
  rw [readToken, heard]
  cases Authenticator.isSuccess response.status <;> simp [log]

section Fetch

variable {parties : Parties World} {target : RealmTarget} {before middle after : World}
variable {credentials : Headers} {response : Response}

theorem finish_fetch_of_refused {failure : Failure}
    (asking : parties.asked target before = (after, .error failure)) :
    finish (parties.fetch target) before = (after, .error failure) := by
  rw [asked, way] at asking
  simp only [fetch, log, finish_bind, finish_modifyGet, finish_modify, asking]

variable (asking : parties.asked target before = (middle, .ok credentials))
include asking

theorem finish_fetch_of_failed {failure : Failure}
    (sending : parties.sent target before credentials middle = (after, .error failure)) :
    finish (parties.fetch target) before = (after, .error failure) := by
  rw [asked, way] at asking
  rw [sent, way] at sending
  simp only [fetch, log, finish_bind, finish_modifyGet, finish_modify, asking, sending]

theorem finish_fetch_of_answered
    (sending : parties.sent target before credentials middle = (after, .ok response)) :
    finish (parties.fetch target) before =
      (parties.heard target response after, parties.headersIn response) := by
  rw [asked, way] at asking
  rw [sent, way] at sending
  simp only [fetch, log, finish_bind, finish_modifyGet, finish_modify, asking, sending,
    finish_readToken]

end Fetch

/-- An exchange takes its course. -/
theorem Course.finish_fetch {target : RealmTarget} {before after : World}
    {outcome : Except Failure Headers} {made : List Call}
    (course : parties.Course target before after outcome made) :
    finish (parties.fetch target) before = (after, outcome) := by
  cases course with
  | unasked asking => exact finish_fetch_of_refused asking
  | unsent asking sending => exact finish_fetch_of_failed asking sending
  | unread asking sending reading =>
      rw [finish_fetch_of_answered asking sending, headersIn, reading]
      rfl
  | tokenless asking sending reading extracting =>
      rw [finish_fetch_of_answered asking sending, parties.headersIn_of_read reading, extracting]
      rfl
  | granted asking sending reading extracting =>
      rw [finish_fetch_of_answered asking sending, parties.headersIn_of_read reading, extracting]
      rfl

/-! ## Noted calls -/

theorem observeAll_noting (events : List Event) (world : World) (calls : List Call) :
    parties.noting.observeAll events (world, calls) = (parties.observeAll events world, calls) := by
  induction events generalizing world with
  | nil => rfl
  | cons event others induction => exact induction (parties.observe event world)

theorem heard_noting (target : RealmTarget) (response : Response) (world : World)
    (calls : List Call) :
    parties.noting.heard target response (world, calls) =
      (parties.heard target response world, calls) := by
  rw [heard, heard, ← observeAll_noting]
  split <;> rfl

section Courses

variable {parties : Parties World} {target : RealmTarget} {before middle after : World}
variable {credentials : Headers}

theorem asked_noting {outcome : Except Failure Headers}
    (asking : parties.asked target before = (after, outcome)) (calls : List Call) :
    parties.noting.asked target (before, calls) = ((after, calls ++ opening target), outcome) := by
  have noted_eq := finish_noted (.realmAuth .empty) (parties.realmAuth .empty)
    (parties.observe (.log (.requestingToken target)) (parties.way target before).2)
    (calls ++ [.dial target.secure target.host (target.port.map Int.ofNat)])
  rw [asked] at asking
  rw [asking, List.append_assoc] at noted_eq
  exact noted_eq

theorem sent_noting {outcome : Except Failure Response}
    (sending : parties.sent target before credentials middle = (after, outcome))
    (calls : List Call) :
    parties.noting.sent target (before, calls) credentials (middle, calls ++ opening target) =
      ((after, calls ++ exchange target credentials), outcome) := by
  have noted_eq := finish_noted (.request (some (target.line "GET".toList)) credentials .none)
    ((parties.way target before).1 (some (target.line "GET".toList)) credentials .none) middle
    (calls ++ opening target)
  rw [sent] at sending
  rw [sending, List.append_assoc] at noted_eq
  exact noted_eq

/-- Parties that note their calls take the same course, and note the calls of the course. -/
theorem Course.noting {outcome : Except Failure Headers} {made : List Call}
    (course : parties.Course target before after outcome made) (calls : List Call) :
    parties.noting.Course target (before, calls) (after, calls ++ made) outcome made := by
  cases course with
  | unasked asking => exact .unasked (asked_noting asking calls)
  | unsent asking sending => exact .unsent (asked_noting asking calls) (sent_noting sending calls)
  | unread asking sending reading =>
      rw [← heard_noting]
      exact .unread (asked_noting asking calls) (sent_noting sending calls) reading
  | tokenless asking sending reading extracting =>
      rw [← heard_noting]
      exact .tokenless (asked_noting asking calls) (sent_noting sending calls) reading extracting
  | granted asking sending reading extracting =>
      rw [← heard_noting]
      exact .granted (asked_noting asking calls) (sent_noting sending calls) reading extracting

/-! ## Other responses -/

theorem sent_restated {outcome : Except Failure Response}
    (sending : parties.sent target before credentials middle = (after, outcome))
    (status : Int) (fields : Headers) :
    (parties.restated status fields).sent target before credentials middle =
      (after, outcome.map fun response => { response with status, headers := fields }) := by
  rw [sent] at sending
  change finish ((parties.way target before).1 _ _ _ >>= _) middle = _
  rw [finish_bind, sending]
  cases outcome <;> rfl

/-- With another status and other header fields the same calls are made with the same result. -/
theorem Course.restated {outcome : Except Failure Headers} {made : List Call}
    (course : parties.Course target before after outcome made) (status : Int) (fields : Headers) :
    ∃ other, (parties.restated status fields).Course target before other outcome made := by
  cases course with
  | unasked asking => exact ⟨_, .unasked asking⟩
  | unsent asking sending => exact ⟨_, .unsent asking (sent_restated sending status fields)⟩
  | unread asking sending reading =>
      exact ⟨_, .unread asking (sent_restated sending status fields) reading⟩
  | tokenless asking sending reading extracting =>
      exact ⟨_, .tokenless asking (sent_restated sending status fields) reading extracting⟩
  | granted asking sending reading extracting =>
      exact ⟨_, .granted asking (sent_restated sending status fields) reading extracting⟩

end Courses

/-! ## Answers -/

theorem finish_logs {α : Type} (items : List α) (record : α → LogRecord) (world : World) :
    finish (items.forM fun item => parties.log (record item)) world =
      (parties.observeAll (items.map fun item => .log (record item)) world, .ok ()) := by
  induction items generalizing world with
  | nil => rfl
  | cons item others induction =>
      change finish (parties.log (record item) >>= fun _ => others.forM _) world = _
      rw [finish_bind, log, finish_modify]
      exact induction _

section Answers

variable {headers : Headers} {challenge : Challenge} {target : RealmTarget}
variable (search : (Challenge.findBearer headers).2 = some challenge)
variable (accepted : challenge.target = .ok target)
include search accepted

theorem finish_answer_of_target (before : World) :
    finish (parties.answer headers) before =
      finish (parties.fetch target)
        (parties.observeAll (Authenticator.rejections headers) before) := by
  simp only [answer, finish_bind, finish_logs, search, accepted]
  rfl

/-- A usable challenge of a response makes a Bearer authenticator ask once for a way to the host of
the realm, ask the authenticator for the token service once with no headers, and send one request,
with its credentials and no body.  The first failure of these, of reading the body and of finding a
token in its chunks is the result, and nothing else is called then.  Without a failure the result is
the token as credentials.  The fallback is never called.  Whatever the status and the header fields
of the response are, the calls and the result are the same. -/
theorem answer_takes_course :
    (∃ realm uri, challenge.realm? = some realm ∧ Uri.split realm = .ok uri ∧
      (target.secure = true ↔ uri.scheme = "https".toList) ∧ target.host = uri.host ∧
      target.port = uri.port.number?) ∧
    (∀ (World : Type) (parties : Parties World) (before : World), ∃ after outcome made,
      finish (parties.answer headers) before = (after, outcome) ∧
      finish (parties.noting.answer headers) (before, []) = ((after, made), outcome) ∧
      parties.Course target (parties.observeAll (Authenticator.rejections headers) before) after
        outcome made ∧
      ∀ status fields, ∃ other,
        finish ((parties.restated status fields).noting.answer headers) (before, []) =
          ((other, made), outcome)) ∧
    ∀ dialer format fallback realmAuth,
      (Authenticator.bearer dialer format fallback realmAuth).answer =
        (Authenticator.parties dialer format fallback realmAuth).answer := by
  refine ⟨?realm, ?course, ?parties⟩
  case realm =>
    obtain ⟨realm, uri, given, split, -, -, -, rfl⟩ := Challenge.target_eq_ok_iff.mp accepted
    exact ⟨realm, uri, given, split, beq_iff_eq, rfl, rfl⟩
  case course =>
    intro World parties before
    obtain ⟨after, outcome, made, course⟩ :=
      parties.exists_course target (parties.observeAll (Authenticator.rejections headers) before)
    -- The calls are read off a course, that of the parties or one with other responses.
    have noted : ∀ {parties : Parties World} {after : World},
        parties.Course target (parties.observeAll (Authenticator.rejections headers) before) after
          outcome made →
        finish (parties.noting.answer headers) (before, []) = ((after, made), outcome) := by
      intro parties after course
      rw [finish_answer_of_target _ search accepted, observeAll_noting]
      exact (course.noting []).finish_fetch
    refine ⟨after, outcome, made, ?_, noted course, course, fun status fields => ?_⟩
    · rw [finish_answer_of_target parties search accepted, course.finish_fetch]
    · obtain ⟨other, restated⟩ := course.restated status fields
      exact ⟨other, noted restated⟩
  case parties =>
    intro dialer format fallback realmAuth
    exact (Authenticator.answer_parties dialer format fallback realmAuth).symm

end Answers

/-- A token in two chunks of a response whose status is no success. -/
theorem answer_takes_course_past_status :
    let headers : Headers :=
      .single "WWW-Authenticate".toList "Bearer realm=\"https://h/t\",scope=\"a b\"".toList
    let challenge : Challenge :=
      { scheme := "Bearer".toList
        params := [("realm".toList, "https://h/t".toList), ("scope".toList, "a b".toList)] }
    let target : RealmTarget :=
      { secure := true, host := ['h'], port := none, path := "/t".toList,
        query := "scope=a%20b".toList }
    let credentials : Headers := .single "Key".toList ['k']
    let network : Network :=
      { realm :=
          { pending :=
              [.response 503 .empty
                (.chunks [Utf8.encode "token=a".toList, Utf8.encode "bc".toList]) none] } }
    let parties : Parties Network :=
      Authenticator.parties .recorded (.form "token".toList) .anonymous (.fixed credentials)
    let outcome : Except Failure Headers :=
      .ok ⟨[("Authorization".toList, "Bearer abc".toList)]⟩
    (Challenge.findBearer headers).2 = some challenge ∧ challenge.target = .ok target ∧
      ∃ after, finish (parties.noting.answer headers) (network, []) =
          ((after, exchange target credentials), outcome) ∧
        ∀ status fields, ∃ other,
          finish ((parties.restated status fields).noting.answer headers) (network, []) =
            ((other, exchange target credentials), outcome) := by
  intro headers challenge target credentials network parties outcome
  have search : (Challenge.findBearer headers).2 = some challenge := by decide +kernel
  have accepted : challenge.target = .ok target := Run.eq_ok_of_toOption (by decide +kernel)
  obtain ⟨-, runs, -⟩ := answer_takes_course search accepted
  obtain ⟨after, found, made, -, noted, -, restated⟩ := runs Network parties network
  have made_eq : (finish (parties.noting.answer headers) (network, [])).1.2 =
      exchange target credentials := by
    decide +kernel
  have outcome_eq : (finish (parties.noting.answer headers) (network, [])).2 = outcome :=
    Run.eq_ok_of_toOption (by decide +kernel)
  rw [noted] at made_eq outcome_eq
  obtain rfl := made_eq
  obtain rfl := outcome_eq
  exact ⟨search, accepted, after, noted, restated⟩

end Parties
end HttpAuth
