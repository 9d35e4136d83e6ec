import HttpAuth.Run

/-!
# How runs compose

The network after a run and its result, part by part: a run in sequence goes on from where the first
part ended, and ends with the first failure.  A remote party and an authenticator with set answers
use their answers up one by one.
-/

namespace HttpAuth

namespace Network

/-- The answers that an authenticator has left. -/
def answers (network : Network) (number : Nat) : List Verdict :=
  (network.verdicts[number]?).getD []

/-- The network once an authenticator has these answers left. -/
def withAnswers (network : Network) (number : Nat) (answers : List Verdict) : Network :=
  { network with verdicts := network.verdicts.set number answers }

/-- The network once a party has given a reply and has these replies left. -/
def served (network : Network) (peer : Peer) (pending : List Reply) : Network :=
  network.withScript peer { served := (network.script peer).served + 1, pending }

variable (network : Network)

@[simp]
theorem observe_nil : network.observe [] = network := by
  simp [observe]

theorem observe_append (events later : List Event) :
    network.observe (events ++ later) = (network.observe events).observe later := by
  simp [observe]

@[simp]
theorem trace_observe (events : List Event) :
    (network.observe events).trace = network.trace ++ events := rfl

@[simp]
theorem script_observe (events : List Event) (peer : Peer) :
    (network.observe events).script peer = network.script peer := by
  cases peer <;> rfl

@[simp]
theorem answers_observe (events : List Event) (number : Nat) :
    (network.observe events).answers number = network.answers number := rfl

@[simp]
theorem trace_served (peer : Peer) (pending : List Reply) :
    (network.served peer pending).trace = network.trace := by
  cases peer <;> rfl

/-- An authenticator that has an answer can use it up. -/
theorem answers_withAnswers {number : Nat} (given : network.answers number ≠ [])
    (others : List Verdict) : (network.withAnswers number others).answers number = others := by
  by_cases inside : number < network.verdicts.length
  · simp [answers, withAnswers, inside]
  · simp [answers, List.getElem?_eq_none (Nat.le_of_not_lt inside)] at given

end Network

namespace Run

variable {α β : Type}

/-! ## The end of a run -/

theorem final_eq (action : Run α) (network : Network) :
    final action network = (finish action network).1 := rfl

theorem result_eq (action : Run α) (network : Network) :
    result action network = (finish action network).2 := rfl

theorem eq_ok_of_toOption {ε : Type} {outcome : Except ε α} {value : α}
    (given : outcome.toOption = some value) : outcome = .ok value := by
  cases outcome with
  | error error => cases given
  | ok found => exact congrArg Except.ok (Option.some.inj given)

/-- What is observed during a run is what it adds to the trace. -/
theorem observed_of_trace {action : Run α} {network : Network} {events : List Event}
    (added : (final action network).trace = network.trace ++ events) :
    observed action network = events := by
  simp [observed, added]

@[simp]
theorem finish_pure (value : α) (network : Network) :
    finish (pure value) network = (network, .ok value) := rfl

@[simp]
theorem finish_throw (failure : Failure) (network : Network) :
    finish (throw failure : Run α) network = (network, .error failure) := rfl

@[simp]
theorem finish_get (network : Network) :
    finish (get : Run Network) network = (network, .ok network) := rfl

@[simp]
theorem finish_bind (action : Run α) (next : α → Run β) (network : Network) :
    finish (action >>= next) network =
      match finish action network with
      | (middle, .ok value) => finish (next value) middle
      | (middle, .error failure) => (middle, .error failure) := by
  simp only [finish, EStateM.run, bind, EStateM.bind]
  cases action network <;> rfl

@[simp]
theorem finish_tryCatch (action : Run α) (handler : Failure → Run α) (network : Network) :
    finish (tryCatch action handler) network =
      match finish action network with
      | (middle, .ok value) => (middle, .ok value)
      | (middle, .error failure) => finish (handler failure) middle := by
  simp only [finish, EStateM.run, tryCatch, tryCatchThe, MonadExceptOf.tryCatch]
  unfold EStateM.tryCatch
  cases action network <;> rfl

@[simp]
theorem finish_emit (event : Event) (network : Network) :
    finish (emit event) network = (network.observe [event], .ok ()) := rfl

@[simp]
theorem finish_log (record : LogRecord) (network : Network) :
    finish (log record) network = (network.observe [.log record], .ok ()) := rfl

@[simp]
theorem finish_ofExcept {ε : Type} (cause : ε → Failure) (outcome : Except ε α)
    (network : Network) : finish (ofExcept cause outcome) network =
      (network, outcome.mapError cause) := by
  cases outcome <;> rfl

theorem finish_ofExcept_ok {ε : Type} (cause : ε → Failure) (value : α) (network : Network) :
    finish (ofExcept cause (.ok value)) network = (network, .ok value) := rfl

theorem finish_ofExcept_error {ε : Type} (cause : ε → Failure) (error : ε) (network : Network) :
    finish (ofExcept cause (.error error) : Run α) network = (network, .error (cause error)) := rfl

@[simp]
theorem finish_ofOutcome (outcome : Outcome α) (network : Network) :
    finish (ofOutcome outcome) network = (network.observe outcome.events, outcome.result) := by
  simp only [ofOutcome, finish_bind, finish_ofExcept]
  cases outcome.result <;> rfl

@[simp]
theorem finish_readBody (owner : Owner) (body : Body) (network : Network) :
    finish (readBody owner body) network =
      (network.observe (body.toContent owner).read.events, (body.toContent owner).read.result) :=
  finish_ofOutcome _ network

@[simp]
theorem finish_release (response : Response) (network : Network) :
    finish (release response) network =
      (network.observe response.body.close.events, response.body.close.result) :=
  finish_ofOutcome _ network

/-! ## Replies and set answers -/

/-- A party gives its next reply, or has none left. -/
theorem finish_serve (peer : Peer) (network : Network) :
    finish (serve peer) network =
      match (network.script peer).pending with
      | [] => (network, .error (.exhausted (.peer peer)))
      | reply :: pending =>
          (network.served peer pending, .ok ((network.script peer).served, reply)) := by
  simp only [serve, finish_bind, finish_get]
  cases (network.script peer).pending <;> rfl

/-- The next reply of a party is a response or a failure. -/
theorem finish_receive (peer : Peer) (content : Owner → Body → Option Hook → Content)
    (network : Network) :
    finish (receive peer content) network =
      match (network.script peer).pending with
      | [] => (network, .error (.exhausted (.peer peer)))
      | .failure failure :: pending => (network.served peer pending, .error failure)
      | .response status headers body hook :: pending =>
          (network.served peer pending,
            .ok { status, headers,
                  body := content (.reply peer (network.script peer).served) body hook }) := by
  simp only [receive, finish_bind, finish_serve]
  cases (network.script peer).pending with
  | nil => rfl
  | cons reply pending => cases reply <;> rfl

/-- An authenticator with set answers gives the next one, or has none left. -/
theorem finish_verdict (number : Nat) (name : Text) (network : Network) :
    finish (verdict number name) network =
      match network.answers number with
      | [] => (network, .error (.exhausted (.authenticator name)))
      | .headers headers :: others => (network.withAnswers number others, .ok headers)
      | .failure failure :: others => (network.withAnswers number others, .error failure) := by
  simp only [verdict, finish_bind, finish_get]
  have answers_eq : network.verdicts[number]?.getD [] = network.answers number := rfl
  rw [answers_eq]
  cases network.answers number with
  | nil => rfl
  | cons answer others => cases answer <;> rfl

end Run
end HttpAuth
