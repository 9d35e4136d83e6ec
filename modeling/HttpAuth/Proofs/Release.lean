import HttpAuth.Proofs.Course
import HttpAuth.Proofs.Ledger

/-!
# Every response is released

Asking an authenticator keeps the ledger of responses balanced whatever happens, also when a
challenge is exchanged for a token.  A request leaves the response that it returns, untouched, and
nothing else.
-/

namespace HttpAuth

open Network

namespace Run

variable {α β : Type}

/-- Every run leaves the ledger as it was. -/
def Keeps (action : Run α) : Prop :=
  ∀ network, Ledger network (final action network) [] []

theorem Keeps.ledger {action : Run α} (keeps : Keeps action) {before after : Network}
    {result : Except Failure α} (finished : finish action before = (after, result)) :
    Ledger before after [] [] := by
  have ledger := keeps before
  rw [final_eq, finished] at ledger
  exact ledger

theorem keeps_pure (value : α) : Keeps (pure value) :=
  fun network => .refl network []

theorem keeps_throw (failure : Failure) : Keeps (throw failure : Run α) :=
  fun network => .refl network []

theorem keeps_ofExcept {ε : Type} (cause : ε → Failure) (outcome : Except ε α) :
    Keeps (ofExcept cause outcome) := by
  intro network
  rw [final_eq, finish_ofExcept]
  exact .refl network []

theorem keeps_emit {event : Event} (unrelated : event.owner? = none) : Keeps (emit event) := by
  intro network
  refine .of_unrelated [] rfl rfl ?_
  simp [unrelated]

theorem keeps_log (record : LogRecord) : Keeps (log record) :=
  keeps_emit rfl

theorem keeps_bind {action : Run α} {next : α → Run β} (first : Keeps action)
    (second : ∀ value, Keeps (next value)) : Keeps (action >>= next) := by
  intro network
  have first_ledger := first network
  rw [final_eq] at first_ledger ⊢
  rw [finish_bind]
  rcases finished : finish action network with ⟨middle, _ | value⟩
  · rw [finished] at first_ledger
    exact first_ledger
  · rw [finished] at first_ledger
    exact first_ledger.trans (second value middle)

theorem keeps_forM {items : List α} {action : α → Run Unit} (each : ∀ item, Keeps (action item)) :
    Keeps (items.forM action) := by
  induction items with
  | nil => exact keeps_pure ()
  | cons item others induction => exact keeps_bind (each item) fun _ => induction

theorem keeps_readBody (body : Body) : Keeps (readBody .caller body) := by
  intro network
  rw [final_eq, finish_readBody]
  refine .of_unrelated [] rfl rfl ?_
  intro event member number about
  rw [body.read_owner .caller event member] at about
  cases about

theorem keeps_verdict (number : Nat) (name : Text) : Keeps (verdict number name) := by
  intro network
  rw [final_eq, finish_verdict]
  split
  · exact .refl network []
  · exact .of_unrelated [] rfl (List.append_nil _).symm (by simp)
  · exact .of_unrelated [] rfl (List.append_nil _).symm (by simp)

end Run

open Run

/-- A response in hand.  It is owed when the client handed it out, and not when a token service with
set replies did. -/
inductive InHand : Response → List Nat → Prop where
  /-- The client handed it out. -/
  | received {response number content}
      (fresh : response.body = Body.received (.reply .client number) content) :
      InHand response [number]
  /-- A token service with set replies gave it. -/
  | recorded {response number content hook}
      (fresh : response.body = Body.contentOver (.reply .realm number) content hook) :
      InHand response []

/-- Reading a response in hand settles it. -/
theorem InHand.read {response : Response} {owed : List Nat} (hand : InHand response owed)
    (network : Network) :
    Ledger network (final (ofOutcome response.body.read) network) owed [] := by
  rw [final_eq, finish_ofOutcome]
  cases hand with
  | @received number content fresh =>
      rw [fresh]
      have ⟨once, owned⟩ := content.received_read (.reply .client number)
      exact .settle network number once owned
  | @recorded number content hook fresh =>
      rw [fresh]
      refine .of_unrelated [] rfl rfl ?_
      intro event member other about
      have owned := content.contentAt_read_owner (.reply .realm number) 0 hook event member
      rw [owned] at about
      cases about

/-- A run that ends with a response has it in hand and settles all others. -/
def Run.Hands (action : Run Response) : Prop :=
  ∀ network, ∃ owed, Ledger network (final action network) [] owed ∧
    match result action network with
    | .ok response => InHand response owed
    | .error _ => owed = []

/-- A run that settles the response of another one keeps the ledger together with it. -/
theorem Run.keeps_bind_hands {α : Type} {action : Run Response} {next : Response → Run α}
    (hands : Hands action)
    (settles : ∀ response owed, InHand response owed → ∀ network,
      Ledger network (final (next response) network) owed []) : Keeps (action >>= next) := by
  intro network
  obtain ⟨owed, ledger, hand⟩ := hands network
  rw [final_eq] at ledger ⊢
  rw [result_eq] at hand
  rw [finish_bind]
  rcases finished : finish action network with ⟨middle, _ | response⟩
  · rw [finished] at hand ledger
    obtain rfl : owed = [] := hand
    exact ledger
  · rw [finished] at hand ledger
    exact ledger.trans (settles response owed hand middle)

/-- The end of a request to the client: a response is the reply with a number, untouched, and is the
only one that is owed; after a failure none is owed. -/
def Returned (before after : Network) : Except Failure Response → Prop
  | .ok response => ∃ number content hook,
      before.clientReply? number = some (.response response.status response.headers content hook) ∧
        response.body = Body.received (.reply .client number) content ∧
        Ledger before after [] [number]
  | .error _ => Ledger before after [] []

/-- What keeps the ledger may come before a request. -/
theorem Returned.after_keeping {before middle after : Network} {result : Except Failure Response}
    (ledger : Ledger before middle [] []) (returned : Returned middle after result) :
    Returned before after result := by
  cases result with
  | error failure => exact ledger.trans returned
  | ok response =>
      obtain ⟨number, content, hook, reply, fresh, settled⟩ := returned
      exact ⟨number, content, hook, ledger.clientReply?_eq reply, fresh, ledger.trans settled⟩

/-- Every run ends as a request to the client does. -/
def Run.Returns (action : Run Response) : Prop :=
  ∀ network, Returned network (final action network) (result action network)

namespace Run

variable {α : Type}

theorem Returns.returned {action : Run Response} (returns : Returns action)
    {before after : Network} {result : Except Failure Response}
    (finished : finish action before = (after, result)) : Returned before after result := by
  have returned := returns before
  rw [final_eq, result_eq, finished] at returned
  exact returned

theorem returns_bind {action : Run α} {next : α → Run Response} (keeps : Keeps action)
    (returns : ∀ value, Returns (next value)) : Returns (action >>= next) := by
  intro network
  have ledger := keeps network
  rw [final_eq] at ledger
  rw [final_eq, result_eq, finish_bind]
  rcases finished : finish action network with ⟨middle, _ | value⟩
  · rw [finished] at ledger
    exact ledger
  · rw [finished] at ledger
    exact (returns value middle).after_keeping ledger

theorem hands_bind {action : Run α} {next : α → Run Response} (keeps : Keeps action)
    (hands : ∀ value, Hands (next value)) : Hands (action >>= next) := by
  intro network
  have ledger := keeps network
  rw [final_eq] at ledger
  rw [final_eq, result_eq, finish_bind]
  rcases finished : finish action network with ⟨middle, _ | value⟩
  · rw [finished] at ledger
    exact ⟨[], ledger, rfl⟩
  · rw [finished] at ledger
    obtain ⟨owed, settled, hand⟩ := hands value middle
    exact ⟨owed, ledger.trans settled, hand⟩

theorem Returns.hands {action : Run Response} (returns : Returns action) : Hands action := by
  intro network
  have returned := returns network
  cases ended : result action network with
  | error failure =>
      rw [ended] at returned
      exact ⟨[], returned, rfl⟩
  | ok response =>
      rw [ended] at returned
      obtain ⟨number, content, hook, -, fresh, settled⟩ := returned
      exact ⟨[number], settled, .received fresh⟩

end Run

namespace Endpoint

variable (line : Option Text) (headers : Headers) (body : Body)

/-- The next reply of the client is returned when it is a response. -/
theorem returns_receive (record : Response → LogRecord) :
    Returns do
      let response ← receive .client fun owner body _ => body.received owner
      Run.log (record response)
      return response := by
  intro network
  rw [final_eq, result_eq, finish_bind, finish_receive]
  cases turn : (network.script .client).pending with
  | nil => exact .refl network []
  | cons reply pending =>
      cases reply with
      | failure failure => exact .of_failed_reply [] turn
      | response status headers body hook =>
          refine ⟨network.client.served, body, hook, ?_, rfl, ?_⟩
          · have first : network.client.pending = .response status headers body hook :: pending :=
              turn
            simp [clientReply?, first]
          · exact (Ledger.of_response turn).trans (.of_unrelated _ rfl rfl (by simp [Event.owner?]))

/-- A request over HTTP returns the reply of the client. -/
theorem returns_remote (secure : Bool) (host : Text) (port : Int) :
    Returns (respond line headers body (.remote secure host port)) := by
  refine returns_bind (keeps_ofExcept _ _) fun parsed => ?_
  refine returns_bind (keeps_readBody body) fun data => ?_
  refine returns_bind (keeps_log _) fun _ => ?_
  refine returns_bind (keeps_emit rfl) fun _ => ?_
  exact returns_receive _

/-- A token service with set replies leaves the client alone. -/
theorem hands_realm : Hands (respond line headers body (.party .realm)) := by
  refine hands_bind (keeps_readBody body) fun data => ?_
  refine hands_bind (keeps_emit rfl) fun _ => ?_
  intro network
  rw [final_eq, result_eq, finish_receive]
  cases turn : (network.script .realm).pending with
  | nil => exact ⟨[], .refl network [], rfl⟩
  | cons reply pending =>
      have unrelated : Ledger network (network.served .realm pending) [] [] :=
        .of_unrelated [] rfl (List.append_nil _).symm (by simp)
      cases reply with
      | failure failure => exact ⟨[], unrelated, rfl⟩
      | response status headers content hook => exact ⟨[], unrelated, .recorded rfl⟩

/-- A token service is reached without an effect on the ledger, and the response that it gives is in
hand. -/
theorem keeps_bind_dial {α : Type} (dialer : Dialer) (secure : Bool) (host : Text)
    (port : Option Int) {next : Endpoint → Run α}
    (remote : ∀ port, Keeps (next (.remote secure host port)))
    (realm : Keeps (next (.party .realm))) :
    Keeps (dialer.dial secure host port >>= next) := by
  cases dialer with
  | http => exact remote _
  | recorded =>
      simp only [Dialer.dial, bind_assoc, pure_bind]
      exact keeps_bind (keeps_emit rfl) fun _ => realm

end Endpoint

namespace Authenticator

/-- Taking a token from a response in hand settles the response. -/
theorem settles_token (format : TokenFormat) (host : Text) {response : Response} {owed : List Nat}
    (hand : InHand response owed) (network : Network) :
    Ledger network (final (do
      if !isSuccess response.status then
        Run.log (.realmStatus host response.status)
      let content ← Run.ofOutcome response.body.read
      let token ← Run.ofExcept .token (format.token content)
      return bearerHeaders token) network) owed [] := by
  have reading : ∀ before, Ledger before (final (do
      let content ← Run.ofOutcome response.body.read
      let token ← Run.ofExcept .token (format.token content)
      return bearerHeaders token) before) owed [] := by
    intro before
    have read := hand.read before
    rw [final_eq, finish_ofOutcome] at read
    rw [final_eq, finish_bind, finish_ofOutcome]
    cases response.body.read.result with
    | error failure => exact read
    | ok content =>
        simp only [finish_bind, finish_ofExcept]
        cases (format.token content).mapError Failure.token <;> exact read
  by_cases success : isSuccess response.status
  · simpa [success] using reading network
  · have logged : Ledger network (network.observe [.log (.realmStatus host response.status)]) owed
        owed := .of_unrelated owed rfl rfl (by simp [Event.owner?])
    simpa [success, final_eq] using logged.trans (reading _)

/-- Fetching a token settles the response of the token service. -/
theorem keeps_fetch (dialer : Dialer) (format : TokenFormat) {realmAuth : Run Headers}
    (keeps : Keeps realmAuth) (target : RealmTarget) :
    Keeps (fetch dialer format realmAuth target) := by
  have exchange : ∀ endpoint : Endpoint,
      (∀ line headers, Hands (endpoint.respond line headers .none)) → Keeps do
        Run.log (.requestingToken target)
        let credentials ← realmAuth
        let response ← endpoint.respond (some (target.line "GET".toList)) credentials .none
        if !isSuccess response.status then
          Run.log (.realmStatus target.host response.status)
        let content ← Run.ofOutcome response.body.read
        let token ← Run.ofExcept .token (format.token content)
        return bearerHeaders token := by
    intro endpoint hands
    refine keeps_bind (keeps_log _) fun _ => ?_
    refine keeps_bind keeps fun credentials => ?_
    refine keeps_bind_hands (hands _ credentials) fun response owed hand network => ?_
    exact settles_token format target.host hand network
  -- Over HTTP the client owes the response of the token service; with set replies nobody does.
  refine Endpoint.keeps_bind_dial dialer _ _ _ (fun port => ?_) ?_
  · exact exchange _ fun line headers => (Endpoint.returns_remote line headers .none _ _ _).hands
  · exact exchange _ fun line headers => Endpoint.hands_realm line headers .none

/-- Asking an authenticator keeps the ledger. -/
theorem keeps_answer (authenticator : Authenticator) (headers : Headers) :
    Keeps (authenticator.answer headers) := by
  induction authenticator generalizing headers with
  | anonymous => exact keeps_pure _
  | fixed given => exact keeps_pure _
  | basic username password => exact keeps_pure _
  | scripted number name =>
      exact keeps_bind (keeps_emit rfl) fun _ => keeps_verdict number name
  | bearer dialer format fallback realmAuth fallback_keeps realm_keeps =>
      refine keeps_bind (keeps_forM fun error => keeps_log _) fun _ => ?_
      split
      · exact fallback_keeps headers
      · split
        · exact keeps_fetch dialer format (realm_keeps .empty) _
        · exact keeps_throw _
        · exact keeps_bind (keeps_log _) fun _ => fallback_keeps headers

end Authenticator

namespace Service

/-- Every request to a service ends as a request to the client does. -/
def ReturnsReplies (service : Service) : Prop :=
  ∀ line headers body, Returns (service.respond line headers body)

/-- Paths in front of a service do not matter. -/
theorem returnsReplies_underAll {service : Service} (returns : service.ReturnsReplies)
    (paths : List Text) : (service.underAll paths).ReturnsReplies := by
  induction paths generalizing service with
  | nil => exact returns
  | cons path paths induction =>
      apply induction
      intro line headers body
      exact returns_bind (keeps_ofExcept _ _) fun parsed => returns _ headers body

section Credentials

variable {send : Headers → Body → Run Response} {authenticator : Authenticator}
variable {line : Option Text} {headers : Headers} {body : Body}

/-- The first response is returned by the client, and nothing else is owed. -/
theorem returned_of_opening (returns : ∀ headers body, Returns (send headers body))
    {before after : Network} {result : Except Failure (Octets × Response)}
    (opening : Opening send authenticator line headers body before after result) :
    Returned before after (result.map Prod.snd) := by
  have ask : ∀ {read asked data outcome},
      finish (readBody .caller body) before = (read, .ok data) →
      finish (authenticator.answer .empty) read = (asked, outcome) →
        Ledger before asked [] [] := fun reading asking =>
    ((keeps_readBody body).ledger reading).trans
      ((authenticator.keeps_answer .empty).ledger asking)
  cases opening with
  | unread reading => exact (keeps_readBody body).ledger reading
  | unasked reading asking => exact ask reading asking
  | @unsent _ _ _ _ first _ reading asking sending =>
      have logged := (ask reading asking).trans (.of_log (.sending line first.size) [])
      exact ((returns _ _).returned sending).after_keeping logged
  | @answered _ _ _ _ first _ reading asking sending =>
      have logged := (ask reading asking).trans (.of_log (.sending line first.size) [])
      exact ((returns _ _).returned sending).after_keeping logged

/-- A challenge is handed on, or it is settled before anything else is returned. -/
theorem returned_of_meeting (returns : ∀ headers body, Returns (send headers body))
    {data : Octets} {challenge : Response} {number : Nat} {content : Body}
    (fresh : challenge.body = Body.received (.reply .client number) content)
    {before after : Network} {result : Except Failure Response}
    (meeting : Meeting send authenticator line headers data challenge before after result) :
    (result = .ok challenge ∧ Ledger before after [number] [number]) ∨
      ∃ middle, Ledger before middle [number] [] ∧ Returned middle after result := by
  have release : ∀ {middle released outcome},
      finish (release challenge) middle = (released, outcome) →
        Ledger middle released [number] [] := by
    intro middle released outcome releasing
    rw [finish_release, fresh, (content.received_close _).1] at releasing
    obtain ⟨rfl, -⟩ := Prod.mk.inj releasing
    exact .settle middle number (by simp [Event.release]) (by simp [Event.owner?])
  have ask : ∀ {asked outcome},
      finish (authenticator.answer challenge.headers) before = (asked, outcome) →
        Ledger before asked [number] [number] := fun asking =>
    ((authenticator.keeps_answer challenge.headers).ledger asking).beside [number]
  cases meeting with
  | unmet asking releasing cause =>
      exact .inr ⟨after, (ask asking).trans (release releasing), .refl after []⟩
  | declined asking nothing => exact .inl ⟨rfl, (ask asking).trans (.of_log _ _)⟩
  | unreleased asking something releasing =>
      have logged := (ask asking).trans (.of_log (.retrying line) _)
      exact .inr ⟨after, logged.trans (release releasing), .refl after []⟩
  | @retried _ released _ _ _ asking something releasing sending =>
      have logged := (ask asking).trans (.of_log (.retrying line) _)
      exact .inr ⟨released, logged.trans (release releasing), (returns _ _).returned sending⟩

/-- A request with credentials ends as a request to the client does. -/
theorem returned_of_course (returns : ∀ headers body, Returns (send headers body))
    {before after : Network} {result : Except Failure Response}
    (course : Course send authenticator line headers body before after result) :
    Returned before after result := by
  cases course with
  | failed opening => exact returned_of_opening returns opening
  | accepted opening accepted => exact returned_of_opening returns opening
  | challenged opening challenged meeting =>
      obtain ⟨number, content, hook, reply, fresh, handed⟩ := returned_of_opening returns opening
      rcases returned_of_meeting returns fresh meeting with
        ⟨rfl, kept⟩ | ⟨middle, settled, returned⟩
      · exact ⟨number, content, hook, reply, fresh, handed.trans kept⟩
      · exact returned.after_keeping (handed.trans settled)

end Credentials

/-- Every response that the client hands out during a request with credentials is closed exactly
once, except for the one that the request returns: that one is a reply of the client as it came,
and neither closed nor read. -/
theorem respond_releases_responses (secure : Bool) (host : Text) (port : Int) (paths : List Text)
    (authenticator : Authenticator) (line : Option Text) (headers : Headers) (body : Body)
    (network : Network) :
    let service : Service :=
      .authenticated ((Service.direct (.remote secure host port)).underAll paths) authenticator
    let call := service.respond line headers body
    let handed := network.handedOut (final call network)
    match result call network with
    | .ok response => ∃ returned ∈ handed,
        (∃ content hook,
          network.clientReply? returned =
            some (.response response.status response.headers content hook) ∧
          response.body = content.received (.reply .client returned)) ∧
        (∀ event ∈ observed call network, event.owner? ≠ some (.reply .client returned)) ∧
        ∀ number ∈ handed, number ≠ returned →
          (observed call network).count (.close (.reply .client number) 0) = 1
    | .error _ => ∀ number ∈ handed,
        (observed call network).count (.close (.reply .client number) 0) = 1 := by
  intro service call handed
  have direct : ReturnsReplies (.direct (.remote secure host port)) := fun line headers body =>
    Endpoint.returns_remote line headers body secure host port
  have returns := returnsReplies_underAll direct paths
  have returned : Returned network (final call network) (result call network) :=
    returned_of_course (returns line) (course_of_authenticate _ authenticator line headers body
      network)
  cases ended : result call network with
  | error failure =>
      rw [ended] at returned
      intro number member
      have accounts := (Ledger.observed_eq returned number).1
      rw [if_pos member, List.count_nil] at accounts
      exact accounts
  | ok response =>
      rw [ended] at returned
      obtain ⟨number, content, hook, reply, fresh, settled⟩ := returned
      -- The ledger owes the returned response alone: it counts as handed out and was not closed.
      obtain ⟨accounts, touched⟩ := settled.observed_eq number
      have member : number ∈ handed := by
        refine Decidable.byContradiction fun outside => ?_
        rw [if_neg outside, List.count_singleton_self] at accounts
        omega
      refine ⟨number, member, ⟨content, hook, reply, fresh⟩, ?_, ?_⟩
      · intro event seen about
        have closed := List.count_pos_iff.mpr (touched event seen about)
        rw [if_pos member, List.count_singleton_self] at accounts
        omega
      · intro other other_member different
        have other_accounts := (settled.observed_eq other).1
        rw [if_pos other_member, List.count_singleton, beq_false_of_ne different.symm]
          at other_accounts
        exact other_accounts

end Service

end HttpAuth
