import HttpAuth.Proofs.Run
import HttpAuth.Service

/-!
# Observation has no influence

A run adds to what was observed and never looks at it.  So a run behaves the same whatever was
observed before it, and what it adds to the trace is its own.
-/

namespace HttpAuth

/-- The network, when these events were observed before all others. -/
def Network.preceded (network : Network) (earlier : List Event) : Network :=
  { network with trace := earlier ++ network.trace }

namespace Network

variable (network : Network) (earlier : List Event)

@[simp]
theorem preceded_observe (events : List Event) :
    (network.preceded earlier).observe events = (network.observe events).preceded earlier := by
  simp [preceded, observe]

@[simp]
theorem script_preceded (peer : Peer) :
    (network.preceded earlier).script peer = network.script peer := by
  cases peer <;> rfl

@[simp]
theorem preceded_served (peer : Peer) (pending : List Reply) :
    (network.preceded earlier).served peer pending =
      (network.served peer pending).preceded earlier := by
  cases peer <;> rfl

@[simp]
theorem answers_preceded (number : Nat) :
    (network.preceded earlier).answers number = network.answers number := rfl

end Network

namespace Run

variable {α β : Type}

/-- A run behaves the same whatever was observed before it. -/
def Blind (action : Run α) : Prop :=
  ∀ network earlier, finish action (network.preceded earlier) =
    ((final action network).preceded earlier, result action network)

theorem blind_pure (value : α) : Blind (pure value) :=
  fun _ _ => rfl

theorem blind_throw (failure : Failure) : Blind (throw failure : Run α) :=
  fun _ _ => rfl

theorem blind_emit (event : Event) : Blind (emit event) := by
  intro network earlier
  rw [final_eq, result_eq, finish_emit, finish_emit, Network.preceded_observe]

theorem blind_log (record : LogRecord) : Blind (log record) :=
  blind_emit (.log record)

theorem blind_ofExcept {ε : Type} (cause : ε → Failure) (outcome : Except ε α) :
    Blind (ofExcept cause outcome) := by
  intro network earlier
  rw [final_eq, result_eq, finish_ofExcept, finish_ofExcept]

theorem blind_ofOutcome (outcome : Outcome α) : Blind (ofOutcome outcome) := by
  intro network earlier
  rw [final_eq, result_eq, finish_ofOutcome, finish_ofOutcome, Network.preceded_observe]

theorem blind_receive (peer : Peer) (content : Owner → Body → Option Hook → Content) :
    Blind (receive peer content) := by
  intro network earlier
  rw [final_eq, result_eq, finish_receive, finish_receive, Network.script_preceded]
  split <;> simp

theorem blind_verdict (number : Nat) (name : Text) : Blind (verdict number name) := by
  intro network earlier
  rw [final_eq, result_eq, finish_verdict, finish_verdict, Network.answers_preceded]
  split <;> rfl

theorem blind_bind {action : Run α} {next : α → Run β} (first : Blind action)
    (second : ∀ value, Blind (next value)) : Blind (action >>= next) := by
  intro network earlier
  have first_blind := first network earlier
  rw [final_eq, result_eq] at first_blind ⊢
  rw [finish_bind, finish_bind, first_blind]
  rcases finish action network with ⟨middle, _ | value⟩
  · rfl
  · exact second value middle earlier

theorem blind_tryCatch {action : Run α} {handler : Failure → Run α} (first : Blind action)
    (second : ∀ failure, Blind (handler failure)) : Blind (tryCatch action handler) := by
  intro network earlier
  have first_blind := first network earlier
  rw [final_eq, result_eq] at first_blind ⊢
  rw [finish_tryCatch, finish_tryCatch, first_blind]
  rcases finish action network with ⟨middle, failure | _⟩
  · exact second failure middle earlier
  · rfl

theorem blind_forM {items : List α} {action : α → Run Unit} (each : ∀ item, Blind (action item)) :
    Blind (items.forM action) := by
  induction items with
  | nil => exact blind_pure ()
  | cons item others induction => exact blind_bind (each item) fun _ => induction

/-- What a blind run adds to the trace is its own, and so are its result and the replies and answers
that it uses up. -/
theorem Blind.finish_observe {action : Run α} (blind : Blind action) (network : Network)
    (events : List Event) :
    finish action (network.observe events) =
      ({ final action network with
          trace := network.trace ++ events ++ observed action network },
        result action network) := by
  let start : Network := { network with trace := [] }
  have before : network = start.preceded network.trace := by
    simp [start, Network.preceded]
  have later : network.observe events = start.preceded (network.trace ++ events) := by
    simp [start, Network.preceded, Network.observe]
  have ended := blind start network.trace
  rw [← before] at ended
  have final_network : final action network = (final action start).preceded network.trace := by
    rw [final_eq action network, ended]
  have result_network : result action network = result action start := by
    rw [result_eq action network, ended]
  have added : observed action network = (final action start).trace := by
    apply observed_of_trace
    rw [final_network]
    rfl
  rw [later, blind start, added, final_network, result_network]
  rfl

theorem Blind.trace_final {action : Run α} (blind : Blind action) (network : Network) :
    (final action network).trace = network.trace ++ observed action network := by
  have finished := blind.finish_observe network []
  rw [Network.observe_nil] at finished
  rw [final_eq, finished, List.append_nil]

end Run

/-! ## Requests and authenticators -/

open Run

theorem Endpoint.blind_respond (endpoint : Endpoint) (line : Option Text) (headers : Headers)
    (body : Body) : Blind (endpoint.respond line headers body) := by
  cases endpoint with
  | party peer =>
      refine blind_bind (blind_ofOutcome _) fun data => ?_
      exact blind_bind (blind_emit _) fun _ => blind_receive peer _
  | remote secure host port =>
      refine blind_bind (blind_ofExcept _ _) fun parsed => ?_
      refine blind_bind (blind_ofOutcome _) fun data => ?_
      refine blind_bind (blind_log _) fun _ => ?_
      refine blind_bind (blind_emit _) fun _ => ?_
      refine blind_bind (blind_receive .client _) fun response => ?_
      exact blind_bind (blind_log _) fun _ => blind_pure response

theorem Dialer.blind_dial (dialer : Dialer) (secure : Bool) (host : Text) (port : Option Int) :
    Blind (dialer.dial secure host port) := by
  cases dialer with
  | recorded => exact blind_bind (blind_emit _) fun _ => blind_pure _
  | http => exact blind_pure _

namespace Authenticator

theorem blind_fetch (dialer : Dialer) (format : TokenFormat) {realmAuth : Run Headers}
    (blind : Blind realmAuth) (target : RealmTarget) :
    Blind (fetch dialer format realmAuth target) := by
  refine blind_bind (dialer.blind_dial _ _ _) fun endpoint => ?_
  refine blind_bind (blind_log _) fun _ => ?_
  refine blind_bind blind fun credentials => ?_
  refine blind_bind (endpoint.blind_respond _ credentials .none) fun response => ?_
  have reading : Blind do
      let content ← Run.ofOutcome response.body.read
      let token ← Run.ofExcept .token (format.token content)
      return bearerHeaders token :=
    blind_bind (blind_ofOutcome _) fun content =>
      blind_bind (blind_ofExcept _ _) fun token => blind_pure _
  split
  · exact blind_bind (blind_log _) fun _ => reading
  · exact reading

/-- An authenticator answers the same whatever was observed before. -/
theorem blind_answer (authenticator : Authenticator) (headers : Headers) :
    Blind (authenticator.answer headers) := by
  induction authenticator generalizing headers with
  | anonymous => exact blind_pure _
  | fixed given => exact blind_pure _
  | basic username password => exact blind_pure _
  | scripted number name =>
      exact blind_bind (blind_emit _) fun _ => blind_verdict number name
  | bearer dialer format fallback realmAuth fallback_blind realm_blind =>
      refine blind_bind (blind_forM fun error => blind_log _) fun _ => ?_
      split
      · exact fallback_blind headers
      · split
        · exact blind_fetch dialer format (realm_blind .empty) _
        · exact blind_throw _
        · exact blind_bind (blind_log _) fun _ => fallback_blind headers

end Authenticator

namespace Service

theorem blind_challengeAnswer (authenticator : Authenticator) (response : Response) :
    Blind (challengeAnswer authenticator response) := by
  refine blind_tryCatch (authenticator.blind_answer _) fun failure => ?_
  exact blind_bind (blind_ofOutcome _) fun _ => blind_throw failure

theorem blind_authenticate {send : Headers → Body → Run Response}
    (blind : ∀ headers body, Blind (send headers body)) (authenticator : Authenticator)
    (line : Option Text) (headers : Headers) (body : Body) :
    Blind (authenticate send authenticator line headers body) := by
  refine blind_bind (blind_ofOutcome _) fun data => ?_
  refine blind_bind (authenticator.blind_answer .empty) fun first => ?_
  refine blind_bind (blind_log _) fun _ => ?_
  refine blind_bind (blind _ _) fun response => ?_
  split
  · exact blind_pure response
  · refine blind_bind (blind_challengeAnswer authenticator response) fun second => ?_
    split
    · exact blind_bind (blind_log _) fun _ => blind_pure response
    · refine blind_bind (blind_log _) fun _ => ?_
      exact blind_bind (blind_ofOutcome _) fun _ => blind _ _

/-- A service responds the same whatever was observed before. -/
theorem blind_respond (service : Service) (line : Option Text) (headers : Headers) (body : Body) :
    Blind (service.respond line headers body) := by
  induction service generalizing line headers body with
  | direct endpoint => exact endpoint.blind_respond line headers body
  | under inner path induction =>
      exact blind_bind (blind_ofExcept _ _) fun _ => induction _ headers body
  | authenticated inner authenticator induction =>
      exact blind_authenticate (fun headers body => induction line headers body) authenticator line
        headers body

end Service
end HttpAuth
