import HttpAuth.Network

/-!
# Runs

A run changes the network and ends with a result or a failure; what was observed before a failure
is kept.
-/

namespace HttpAuth

/-- A computation over the network. -/
abbrev Run := EStateM Failure Network

namespace Run

/-- The network after a run, and the result or the failure of the run. -/
def finish {α : Type} (action : Run α) (network : Network) : Network × Except Failure α :=
  match action.run network with
  | .ok value final => (final, .ok value)
  | .error failure final => (final, .error failure)

/-- The network after a run. -/
def final {α : Type} (action : Run α) (network : Network) : Network :=
  (finish action network).1

/-- The result or the failure of a run. -/
def result {α : Type} (action : Run α) (network : Network) : Except Failure α :=
  (finish action network).2

/-- What is observed during a run. -/
def observed {α : Type} (action : Run α) (network : Network) : List Event :=
  (final action network).trace.drop network.trace.length

/-- Observe one event. -/
def emit (event : Event) : Run Unit :=
  modify (·.observe [event])

/-- Log a record. -/
def log (record : LogRecord) : Run Unit :=
  emit (.log record)

/-- Go on with a value, or fail. -/
def ofExcept {ε α : Type} (cause : ε → Failure) : Except ε α → Run α
  | .ok value => pure value
  | .error error => throw (cause error)

/-- Observe what an operation on a content did, and go on with its result. -/
def ofOutcome {α : Type} (outcome : Outcome α) : Run α := do
  modify (·.observe outcome.events)
  ofExcept id outcome.result

/-- Read a body to its end. -/
def readBody (owner : Owner) (body : Body) : Run Octets :=
  ofOutcome (body.toContent owner).read

/-- Release a response. -/
def release (response : Response) : Run Unit :=
  ofOutcome response.body.close

/-- The reply of a party whose turn it is, and the number of the reply. -/
def serve (peer : Peer) : Run (Nat × Reply) := do
  let script := (← get).script peer
  match script.pending with
  | [] => throw (.exhausted (.peer peer))
  | reply :: pending =>
      modify (·.withScript peer { served := script.served + 1, pending })
      return (script.served, reply)

/-- The response of a party whose turn it is, with its body made into a content. -/
def receive (peer : Peer) (content : Owner → Body → Option Hook → Content) : Run Response := do
  let (index, reply) ← serve peer
  match reply with
  | .failure failure => throw failure
  | .response status headers body hook =>
      return { status, headers, body := content (.reply peer index) body hook }

/-- The next answer of an authenticator whose answers are set. -/
def verdict (number : Nat) (name : Text) : Run Headers := do
  match ((← get).verdicts[number]?).getD [] with
  | [] => throw (.exhausted (.authenticator name))
  | answer :: others =>
      modify fun network => { network with verdicts := network.verdicts.set number others }
      match answer with
      | .headers headers => return headers
      | .failure failure => throw failure

/-- Run a computation, then another one, whether or not the first fails. -/
def ensuring {α : Type} (action : Run α) (last : Run Unit) : Run α := do
  let result ← tryCatch action fun failure => do
    last
    throw failure
  last
  return result

end Run
end HttpAuth
