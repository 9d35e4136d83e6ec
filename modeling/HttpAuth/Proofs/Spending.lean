import HttpAuth.Proofs.Secrecy

/-!
# Replies are spent by requests

A request takes the next reply of the party that it goes to, and nothing else takes one.  So what is
left of a network after a run follows from the requests that were made during the run, and how a run
goes depends on nothing else that happened before.
-/

namespace HttpAuth

open Run

/-! ## What is left of a network -/

/-- The replies that are left once some more were given; there may be fewer left. -/
def Script.skip (script : Script) (count : Nat) : Script :=
  { served := script.served + min count script.pending.length
    pending := script.pending.drop count }

theorem Script.skip_zero (script : Script) : script.skip 0 = script := by
  simp [skip]

theorem Script.skip_of_nil {script : Script} (none_left : script.pending = []) (count : Nat) :
    script.skip count = script := by
  obtain ⟨served, pending⟩ := script
  obtain rfl : pending = [] := none_left
  simp [skip]

theorem Script.skip_add (script : Script) (first second : Nat) :
    script.skip (first + second) = (script.skip first).skip second := by
  simp only [skip, List.length_drop, List.drop_drop, Script.mk.injEq, and_true]
  omega

/-- An HTTP client is made or closed. -/
def Event.isClient : Event → Bool
  | .clientOpen _ => true
  | .clientClose => true
  | _ => false

namespace Network

/-- The number of requests to a party. -/
def requested (peer : Peer) (events : List Event) : Nat :=
  events.countP (Event.isRequestTo peer)

/-- What is left of a network, apart from the trace, once these requests were made. -/
def spent (network : Network) (events : List Event) : Network :=
  { network with
    trace := []
    origin := network.origin.skip (requested .origin events)
    realm := network.realm.skip (requested .realm events)
    client := network.client.skip (requested .client events) }

theorem script_spent (network : Network) (events : List Event) (peer : Peer) :
    (network.spent events).script peer = (network.script peer).skip (requested peer events) := by
  cases peer <;> rfl

theorem spent_nil (network : Network) : network.spent [] = network.untraced := by
  simp [spent, requested, Script.skip_zero, untraced]

theorem spent_append (network : Network) (events later : List Event) :
    network.spent (events ++ later) = (network.spent events).spent later := by
  simp only [spent, requested, List.countP_append, Script.skip_add]

theorem spent_of_untraced {network other : Network} (same : network.untraced = other.untraced)
    (events : List Event) : network.spent events = other.spent events := by
  simp only [untraced, Network.mk.injEq, true_and] at same
  simp only [spent, same]

/-- Only contacts count. -/
theorem spent_contacts (network : Network) (events : List Event) :
    network.spent (events.filter Event.isContact) = network.spent events := by
  have counts (peer : Peer) : requested peer (events.filter Event.isContact) =
      requested peer events := by
    rw [requested, requested, List.countP_filter]
    congr 1
    funext event
    cases event <;> simp [Event.isRequestTo, Event.isContact]
  simp only [spent, counts]

/-- Between two moments these contacts were made, no client was made or closed, and each request
took a reply of the party that it went to. -/
structure Spends (before after : Network) (contacts : List Event) : Prop where
  /-- What was observed. -/
  observed : ∃ events, after.trace = before.trace ++ events ∧
    events.filter Event.isContact = contacts ∧ ∀ event ∈ events, event.isClient = false
  /-- What is left. -/
  rest : after.untraced = before.spent contacts

namespace Spends

variable {before middle after : Network} {contacts later : List Event}

theorem refl (network : Network) : Spends network network [] :=
  ⟨⟨[], by simp, rfl, by simp⟩, network.spent_nil.symm⟩

theorem trans (first : Spends before middle contacts) (second : Spends middle after later) :
    Spends before after (contacts ++ later) := by
  obtain ⟨⟨events, trace_eq, rfl, inner⟩, rest⟩ := first
  obtain ⟨⟨others, later_eq, rfl, later_inner⟩, later_rest⟩ := second
  refine ⟨⟨events ++ others, ?_, List.filter_append .., ?_⟩, ?_⟩
  · rw [later_eq, trace_eq, List.append_assoc]
  · intro event member
    rcases List.mem_append.mp member with early | late
    · exact inner event early
    · exact later_inner event late
  · rw [later_rest, spent_append]
    exact spent_of_untraced rest _

/-- The contacts of a run are those between its start and its end. -/
theorem contacts_run {α : Type} {action : Run α} {network : Network}
    (spends : Spends network (final action network) contacts) :
    Run.contacts action network = contacts := by
  obtain ⟨⟨events, trace_eq, filter_eq, -⟩, -⟩ := spends
  rw [Run.contacts, observed_of_trace trace_eq, filter_eq]

/-- Events that are no requests take no reply. -/
theorem of_observe {events : List Event} (unasked : ∀ peer, requested peer events = 0)
    (inner : events.countP Event.isClient = 0) :
    Spends before (before.observe events) (events.filter Event.isContact) := by
  refine ⟨⟨events, rfl, rfl, fun event member => ?_⟩, ?_⟩
  · exact Bool.eq_false_iff.mpr (List.countP_eq_zero.mp inner event member)
  have none_asked (peer : Peer) : requested peer (events.filter Event.isContact) = 0 :=
    Nat.le_zero.mp (unasked peer ▸ List.Sublist.countP_le List.filter_sublist)
  simp only [spent, none_asked, Script.skip_zero]
  rfl

theorem of_quiet {events : List Event}
    (quiet : ∀ event ∈ events, event.isContact = false ∧ event.isClient = false) :
    Spends before (before.observe events) [] := by
  have none_made : events.filter Event.isContact = [] :=
    List.filter_eq_nil_iff.mpr fun event member => by simp [(quiet event member).1]
  have unasked (peer : Peer) : requested peer events = 0 := by
    refine List.countP_eq_zero.mpr fun event member asked => ?_
    have contact := (quiet event member).1
    cases event with
    | request | send => cases contact
    | _ => cases asked
  have inner : events.countP Event.isClient = 0 :=
    List.countP_eq_zero.mpr fun event member => by simp [(quiet event member).2]
  have spends : Spends before _ _ := of_observe unasked inner
  rwa [none_made] at spends

theorem of_log (record : LogRecord) : Spends before (before.observe [.log record]) [] :=
  of_quiet (by simp [Event.isContact, Event.isClient])

theorem of_read (content : Content) : Spends before (before.observe content.read.events) [] := by
  refine of_quiet fun event member => ⟨content.isContact_of_read member, ?_⟩
  have about_body := Content.owner_of_read member
  cases event with
  | chunk | close => rfl
  | _ => cases about_body

theorem of_close (content : Content) : Spends before (before.observe content.close.events) [] := by
  refine of_quiet fun event member => ?_
  rw [content.gate.close_events event member]
  exact ⟨rfl, rfl⟩

end Spends

/-- What comes of a request to a party that answers next with the next of its replies. -/
def reply (network : Network) (peer : Peer) (content : Owner → Body → Option Hook → Content) :
    Except Failure Response :=
  match (network.script peer).pending with
  | [] => .error (.exhausted (.peer peer))
  | .failure failure :: _ => .error failure
  | .response status headers body hook :: _ =>
      .ok { status, headers,
            body := content (.reply peer (network.script peer).served) body hook }

theorem reply_observe (network : Network) (events : List Event) (peer : Peer)
    (content : Owner → Body → Option Hook → Content) :
    (network.observe events).reply peer content = network.reply peer content := by
  rw [reply, reply, script_observe]

theorem reply_of_untraced {network other : Network} (same : network.untraced = other.untraced)
    (peer : Peer) (content : Owner → Body → Option Hook → Content) :
    network.reply peer content = other.reply peer content := by
  have scripts : network.script peer = other.script peer := by
    have untraced (network : Network) : network.untraced.script peer = network.script peer := by
      cases peer <;> rfl
    rw [← untraced, same, untraced]
  rw [reply, reply, scripts]

/-- Requests to others leave the replies of a party alone. -/
theorem reply_spent (network : Network) {events : List Event} {peer : Peer}
    (unasked : requested peer events = 0) (content : Owner → Body → Option Hook → Content) :
    (network.spent events).reply peer content = network.reply peer content := by
  rw [reply, reply, script_spent, unasked, Script.skip_zero]

/-- A response comes of the reply behind those that the requests have taken. -/
theorem reply_eq_ok_of_spent {network : Network} {events : List Event} {peer : Peer}
    {content : Owner → Body → Option Hook → Content} {response : Response}
    (given : (network.spent events).reply peer content = .ok response) :
    ∃ body hook, (network.script peer).pending[requested peer events]? =
        some (.response response.status response.headers body hook) ∧
      response.body =
        content (.reply peer ((network.script peer).served + requested peer events)) body hook := by
  rw [reply, script_spent] at given
  cases left : ((network.script peer).skip (requested peer events)).pending with
  | nil =>
      rw [left] at given
      cases given
  | cons next others =>
      rw [left] at given
      have next_eq : (network.script peer).pending[requested peer events]? = some next := by
        change (network.script peer).pending.drop (requested peer events) = next :: others at left
        rw [← List.head?_drop, left, List.head?_cons]
      have enough : requested peer events < (network.script peer).pending.length :=
        (List.getElem?_eq_some_iff.mp next_eq).1
      cases next with
      | failure failure => cases given
      | response status headers body hook =>
          cases given
          refine ⟨body, hook, next_eq, ?_⟩
          rw [Script.skip, Nat.min_eq_left (Nat.le_of_lt enough)]

/-- The network once a party had its turn. -/
def passed (network : Network) (peer : Peer) : Network :=
  match (network.script peer).pending with
  | [] => network
  | _ :: pending => network.served peer pending

theorem script_passed (network : Network) (peer other : Peer) :
    (network.passed peer).script other =
      (network.script other).skip (if peer = other then 1 else 0) := by
  rw [passed]
  split
  · rename_i pending
    split
    · rename_i same
      rw [← same, Script.skip_of_nil pending]
    · rw [Script.skip_zero]
  · rename_i reply rest pending
    rw [script_served]
    by_cases same : peer = other
    · subst same
      simp only [Script.skip, pending, if_true, List.drop_succ_cons, List.drop_zero,
        List.length_cons, Script.mk.injEq, and_true]
      omega
    · rw [if_neg (Ne.symm same), if_neg same, Script.skip_zero]

@[simp]
theorem trace_passed (network : Network) (peer : Peer) :
    (network.passed peer).trace = network.trace := by
  rw [passed]
  split
  · rfl
  · rw [trace_served]

/-- A request takes a reply. -/
theorem Spends.of_request {before : Network} {event : Event} {peer : Peer}
    (contact : event.isContact = true ∧ event.isClient = false)
    (requested : ∀ other, event.isRequestTo other = decide (peer = other)) :
    Spends before ((before.observe [event]).passed peer) [event] := by
  have counts (other : Peer) : Network.requested other [event] = if peer = other then 1 else 0 := by
    simp [Network.requested, requested]
  constructor
  · exact ⟨[event], trace_passed _ peer, by simp [contact.1], by simp [contact.2]⟩
  · have scripts (other : Peer) :
        ((before.observe [event]).passed peer).script other =
          (before.spent [event]).script other := by
      rw [script_passed, script_spent, script_observe, counts]
    have verdicts : ((before.observe [event]).passed peer).verdicts = before.verdicts := by
      rw [passed]
      split
      · rfl
      · cases peer <;> rfl
    simp only [untraced, spent, Network.mk.injEq, true_and]
    exact ⟨scripts .origin, scripts .realm, scripts .client, verdicts⟩

end Network

/-- A party whose turn it is gives its next reply. -/
theorem Run.finish_receive_eq (peer : Peer) (content : Owner → Body → Option Hook → Content)
    (network : Network) :
    finish (receive peer content) network = (network.passed peer, network.reply peer content) := by
  rw [finish_receive, Network.passed, Network.reply]
  rcases (network.script peer).pending with _ | ⟨_ | _, _⟩ <;> rfl

/-- A run depends on nothing that was observed before. -/
theorem Run.Blind.of_untraced {α : Type} {action : Run α} (blind : Blind action)
    {network other : Network} (same : network.untraced = other.untraced) :
    observed action network = observed action other ∧
      result action network = result action other := by
  have bare (network : Network) : observed action network = observed action network.untraced ∧
      result action network = result action network.untraced := by
    have finished := blind.finish_observe network.untraced network.trace
    change finish action network = _ at finished
    constructor
    · apply observed_of_trace
      rw [final_eq, finished]
      rfl
    · rw [result_eq, finished]
  obtain ⟨observed_eq, result_eq⟩ := bare network
  obtain ⟨other_observed_eq, other_result_eq⟩ := bare other
  rw [observed_eq, result_eq, other_observed_eq, other_result_eq, same]
  exact ⟨rfl, rfl⟩

/-! ## Requests -/

open Network

/-- An endpoint takes a reply for the request that it makes, and fails if it makes none. -/
theorem Endpoint.spends_respond (endpoint : Endpoint) (line : Option Text) (headers : Headers)
    (body : Body) (network : Network) :
    let call := endpoint.respond line headers body
    let requests := endpoint.requests line headers body
    Spends network (final call network) requests ∧
      (requests ≠ [] → result call network = network.reply endpoint.peer endpoint.content) ∧
      (requests = [] → ∃ failure, result call network = .error failure) := by
  intro call requests
  have reading : Spends network _ _ := .of_read (body.toContent .caller)
  cases endpoint with
  | party peer =>
      simp only [call, requests, respond, Endpoint.requests, final_eq, result_eq, finish_bind,
        finish_readBody]
      cases (body.toContent .caller).read.result with
      | error failure => exact ⟨reading, fun none_made => absurd rfl none_made, fun _ => ⟨_, rfl⟩⟩
      | ok data =>
          simp only [finish_emit, finish_receive_eq, reply_observe]
          have requesting : Spends (network.observe (body.toContent .caller).read.events)
              (((network.observe (body.toContent .caller).read.events).observe
                [.request peer line headers data]).passed peer)
              [.request peer line headers data] :=
            .of_request ⟨rfl, rfl⟩ fun other => rfl
          exact ⟨reading.trans requesting, fun _ => rfl, fun none_made => by cases none_made⟩
  | remote secure host port =>
      simp only [call, requests, respond, Endpoint.requests, final_eq, result_eq, finish_bind]
      cases RequestLine.parse line with
      | error error =>
          exact ⟨.refl network, fun none_made => absurd rfl none_made, fun _ => ⟨_, rfl⟩⟩
      | ok read =>
          simp only [finish_ofExcept_ok, finish_readBody]
          cases (body.toContent .caller).read.result with
          | error failure =>
              exact ⟨reading, fun none_made => absurd rfl none_made, fun _ => ⟨_, rfl⟩⟩
          | ok data =>
              let address := url secure host port read.target
              let request : Event :=
                .send read.method address headers (if data.isEmpty then none else some data)
              let logged := (network.observe (body.toContent .caller).read.events).observe
                [.log (.httpRequest read.method address)]
              have requesting :
                  Spends logged ((logged.observe [request]).passed .client) [request] :=
                .of_request ⟨rfl, rfl⟩ fun other => by cases other <;> rfl
              have sent := (reading.trans (.of_log _)).trans requesting
              simp only [finish_log, finish_emit, finish_receive_eq, reply_observe]
              cases given : network.reply .client fun owner body _ => body.received owner with
              | error failure =>
                  exact ⟨sent, fun _ => given.symm, fun none_made => by cases none_made⟩
              | ok response =>
                  have logged := sent.trans (.of_log (.httpResponse response.status host port))
                  exact ⟨logged, fun _ => given.symm, fun none_made => by cases none_made⟩

end HttpAuth
