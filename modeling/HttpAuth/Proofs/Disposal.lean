import HttpAuth.Proofs.Transcript

/-!
# What becomes of the replies

Of the replies that a request with credentials receives, the one that is returned is left alone.  A
challenge that is not returned is released once: after the second answer of the authenticator, and
before the request is sent again.
-/

namespace HttpAuth

/-- None of the events is about the body of an owner. -/
def Untouched (owner : Owner) (events : List Event) : Prop :=
  ∀ event ∈ events, event.owner? ≠ some owner

namespace Untouched

variable {owner : Owner}

@[simp]
theorem nil : Untouched owner [] := by
  simp [Untouched]

@[simp]
theorem cons {event : Event} {events : List Event} :
    Untouched owner (event :: events) ↔ event.owner? ≠ some owner ∧ Untouched owner events := by
  simp [Untouched]

@[simp]
theorem append {left right : List Event} :
    Untouched owner (left ++ right) ↔ Untouched owner left ∧ Untouched owner right :=
  List.forall_mem_append

theorem of_owner {other : Owner} {events : List Event} (different : other ≠ owner)
    (owned : ∀ event ∈ events, event.owner? = some other) : Untouched owner events := by
  intro event member about
  rw [owned event member] at about
  exact different (Option.some.inj about)

end Untouched

namespace Service

open Run

/-- What becomes of the replies of the origin, the first of which has a number. -/
structure ReleasesUnreturned (name : Text) (line : Option Text) (headers : Headers)
    (data : Octets) (replies : List Reply) (number : Nat) (observed : List Event)
    (result : Except Failure Response) : Prop where
  /-- A response that is returned is a reply as it came: nothing of it is read or released. -/
  returned : ∀ response, result = .ok response → ∃ turn content hook,
    replies[turn]? = some (.response response.status response.headers content hook) ∧
      response.body = Body.contentOver (.reply .origin (number + turn)) content hook ∧
      Untouched (.reply .origin (number + turn)) observed
  /-- A challenge that is received and not returned is released, and nothing else happens to it.
  All calls but the second request come before, and a release that fails is the end. -/
  released : ∀ received content hook,
    replies[0]? = some (.response unauthorized received content hook) →
    (observed.filter Event.isCall)[1]?.isSome →
    result ≠ .ok
      { status := unauthorized
        headers := received
        body := Body.contentOver (.reply .origin number) content hook } →
    ∃ earlier later,
      observed = earlier ++ (releaseOf number hook ++ later) ∧
        Untouched (.reply .origin number) (earlier ++ later) ∧
        (∃ first, earlier.filter Event.isCall =
          [.authenticate name .empty, .request .origin line (headers ++ first) data,
            .authenticate name received]) ∧
        (later = [] ∨ ∃ second, later = [.request .origin line (headers ++ second) data]) ∧
        (hook = some .failing → later = [])

theorem responseOf_eq_ok {number : Nat} {reply : Option Reply} {response : Response}
    (replied : responseOf number reply = .ok response) :
    ∃ content hook, reply = some (.response response.status response.headers content hook) ∧
      response.body = Body.contentOver (.reply .origin number) content hook := by
  cases reply with
  | none => cases replied
  | some reply =>
      cases reply with
      | failure failure => cases replied
      | response status headers content hook =>
          cases replied
          exact ⟨content, hook, rfl, rfl⟩

section Attempt

variable (name : Text) (line : Option Text) (headers first : Headers) (data : Octets)

theorem untouched_attempt (owner : Owner) :
    Untouched owner (attempt name line headers data first) := by
  simp [attempt, Event.owner?]

theorem calls_attempt : (attempt name line headers data first).filter Event.isCall =
    [.authenticate name .empty, .request .origin line (headers ++ first) data] := rfl

theorem untouched_releaseOf {number other : Nat} (different : number ≠ other)
    (hook : Option Hook) : Untouched (.reply .origin other) (releaseOf number hook) := by
  have owners : Owner.reply .origin number ≠ .reply .origin other := by simpa using different
  refine .of_owner owners ?_
  intro event member
  rw [mem_releaseOf member]
  rfl

end Attempt

section Observed

variable {name : Text} {line : Option Text} {headers : Headers} {data : Octets}
variable {answers : List Verdict} {replies : List Reply} {number : Nat}
variable {reading events : List Event} {result : Except Failure Response}

/-- The response at the end of a transcript was not touched. -/
theorem returned_of_transcript (untouched : ∀ number, Untouched (.reply .origin number) reading)
    (transcript : Transcript name line headers data answers replies number events result)
    {response : Response} (ended : result = .ok response) :
    ∃ turn content hook,
      replies[turn]? = some (.response response.status response.headers content hook) ∧
        response.body = Body.contentOver (.reply .origin (number + turn)) content hook ∧
        Untouched (.reply .origin (number + turn)) (reading ++ events) := by
  cases transcript with
  | unasked | unsent | unmet | unreleased => cases ended
  | accepted _ first_reply _ =>
      obtain ⟨content, hook, reply_eq, fresh⟩ := responseOf_eq_ok first_reply
      cases ended
      exact ⟨0, content, hook, reply_eq, fresh, by simp [untouched, untouched_attempt]⟩
  | @declined _ _ _ content hook _ challenge _ _ =>
      cases ended
      exact ⟨0, content, hook, challenge, rfl,
        by simp [untouched, untouched_attempt, Event.owner?]⟩
  | retried _ _ _ _ _ =>
      obtain ⟨content, hook, reply_eq, fresh⟩ := responseOf_eq_ok ended
      refine ⟨1, content, hook, reply_eq, fresh, ?_⟩
      have other := untouched_releaseOf (Nat.ne_of_lt (Nat.lt_add_one number))
      simp [untouched, untouched_attempt, other, Event.owner?]

/-- What is observed up to the release of a challenge, with the records that are logged after the
second answer. -/
def beforeRelease (name : Text) (line : Option Text) (headers : Headers) (data : Octets)
    (reading : List Event) (first received : Headers) (records : List LogRecord) : List Event :=
  reading ++ attempt name line headers data first ++
    .authenticate name received :: records.map .log

theorem untouched_beforeRelease {owner : Owner} (untouched : Untouched owner reading)
    (first received : Headers) (records : List LogRecord) :
    Untouched owner (beforeRelease name line headers data reading first received records) := by
  have unlogged : Untouched owner (records.map Event.log) := by
    simp [Untouched, Event.owner?]
  simp [beforeRelease, untouched, untouched_attempt, unlogged, Event.owner?]

theorem calls_beforeRelease (silent : reading.filter Event.isCall = [])
    (first received : Headers) (records : List LogRecord) :
    (beforeRelease name line headers data reading first received records).filter Event.isCall =
      [.authenticate name .empty, .request .origin line (headers ++ first) data,
        .authenticate name received] := by
  have unlogged : (records.map Event.log).filter Event.isCall = [] := by
    simp [List.filter_eq_nil_iff, Event.isCall]
  rw [beforeRelease, List.filter_append, List.filter_append, silent, calls_attempt,
    List.filter_cons_of_pos rfl, unlogged]
  rfl

/-- A challenge that a transcript does not end with was released. -/
theorem released_of_transcript (untouched : ∀ number, Untouched (.reply .origin number) reading)
    (silent : reading.filter Event.isCall = [])
    (transcript : Transcript name line headers data answers replies number events result)
    {received : Headers} {content : Body} {hook : Option Hook}
    (challenge : replies[0]? = some (.response unauthorized received content hook))
    (requested : ((reading ++ events).filter Event.isCall)[1]?.isSome)
    (unreturned : result ≠ .ok
      { status := unauthorized
        headers := received
        body := Body.contentOver (.reply .origin number) content hook }) :
    ∃ earlier later,
      reading ++ events = earlier ++ (releaseOf number hook ++ later) ∧
        Untouched (.reply .origin number) (earlier ++ later) ∧
        (∃ first, earlier.filter Event.isCall =
          [.authenticate name .empty, .request .origin line (headers ++ first) data,
            .authenticate name received]) ∧
        (later = [] ∨ ∃ second, later = [.request .origin line (headers ++ second) data]) ∧
        (hook = some .failing → later = []) := by
  cases transcript with
  | unasked _ =>
      rw [List.filter_append, silent] at requested
      cases requested
  | unsent _ first_reply =>
      rw [challenge] at first_reply
      cases first_reply
  | accepted _ first_reply accepted =>
      rw [challenge] at first_reply
      cases first_reply
      exact absurd rfl accepted
  | declined _ found _ _ =>
      rw [challenge] at found
      cases found
      exact absurd rfl unreturned
  | @unmet first _ _ _ _ _ found _ =>
      rw [challenge] at found
      cases found
      refine ⟨beforeRelease name line headers data reading first received [], [],
        by simp [beforeRelease], ?_, ⟨first, calls_beforeRelease silent first received _⟩, .inl rfl,
        fun _ => rfl⟩
      simpa using untouched_beforeRelease (untouched number) first received _
  | @unreleased first _ _ _ _ _ found _ _ _ =>
      rw [challenge] at found
      cases found
      refine ⟨beforeRelease name line headers data reading first received [.retrying line], [],
        by simp [beforeRelease], ?_, ⟨first, calls_beforeRelease silent first received _⟩, .inl rfl,
        fun _ => rfl⟩
      simpa using untouched_beforeRelease (untouched number) first received _
  | @retried first second _ _ _ _ found _ _ released =>
      rw [challenge] at found
      cases found
      refine ⟨beforeRelease name line headers data reading first received [.retrying line],
        [.request .origin line (headers ++ second) data], by simp [beforeRelease], ?_,
        ⟨first, calls_beforeRelease silent first received _⟩, .inr ⟨second, rfl⟩,
        fun failing => absurd failing released⟩
      simpa [Event.owner?] using untouched_beforeRelease (untouched number) first received _

end Observed

/-- Of the replies that a request with credentials receives only those are released that are not
returned, and they are released once and in time. -/
theorem respond_releases_unreturned (number : Nat) (name : Text) (line : Option Text)
    (headers : Headers) (body : Body) (network : Network) :
    let call := (recorded number name).respond line headers body
    ReleasesUnreturned name line headers body.data network.origin.pending network.origin.served
      (observed call network) (result call network) := by
  intro call
  have silent := body.read_makes_no_call
  have untouched (number : Nat) :
      Untouched (.reply .origin number) (body.toContent .caller).read.events := by
    have different : Owner.caller ≠ .reply .origin number := nofun
    exact .of_owner different (body.read_owner .caller)
  cases reading : (body.toContent .caller).read.result with
  | error failure =>
      have finished := finish_unread number name line headers reading network
      have observed_eq : observed call network = (body.toContent .caller).read.events := by
        apply observed_of_trace
        rw [final_eq, finished]
        rfl
      have ended : result call network = .error failure := by rw [result_eq, finished]
      rw [observed_eq, ended]
      constructor
      case returned =>
        intro _ returned
        cases returned
      case released =>
        intro _ _ _ _ requested
        rw [silent] at requested
        cases requested
  | ok data =>
      obtain ⟨events, observed_eq, transcript⟩ :=
        transcript_of_read number name line headers reading network
      rw [observed_eq, ← Body.read_data reading]
      constructor
      case returned =>
        intro _ returned
        exact returned_of_transcript untouched transcript returned
      case released =>
        intro _ _ _ challenge requested unreturned
        exact released_of_transcript untouched silent transcript challenge requested unreturned

end Service
end HttpAuth
