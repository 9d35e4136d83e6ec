import HttpAuth.Proofs.Delivery
import HttpAuth.Proofs.TokenExchange

/-!
# The response of a token service is released

A Bearer authenticator reads the response of the token service to its end, and that releases it
unless it is bytes in memory, which can be read again.  Its parties show this when a record is kept
of the responses that they give and of what the authenticator does to their bodies.
-/

namespace HttpAuth

/-! ## Reading -/

/-- Reading a content releases all that is due, unless the content can be read again. -/
theorem Content.closings_read (content : Content) :
    closings content.read.events = if content.replayable then [] else content.due := by
  obtain ⟨taken, release, performs, effect⟩ := content.read_performs fun _ => none
  rw [effect.closings_eq]
  generalize content.read.result.map Answer.octets = answer at performs
  cases performs with
  | readBytes supply =>
      rw [replayable, supply]
      rfl
  | read once ends =>
      rw [once]
      rfl

theorem count_closings (events : List Event) (owner : Owner) (layer : Nat) :
    (closings events).count (.close owner layer) = events.count (.close owner layer) := by
  have release : (Event.close owner layer).isClose = true := rfl
  exact List.count_filter release

namespace Body

/-- The release of a fresh content is due once. -/
theorem contentAt_count_due (owner : Owner) (layer : Nat) (body : Body) (hook : Hook) :
    (contentAt owner layer body (some hook)).due.count (.close owner layer) = 1 := by
  have once := contentAt_due_nodup owner layer body (some hook)
  have due : .close owner layer ∈ (contentAt owner layer body (some hook)).due := by
    rw [Content.due_eq, contentAt_gate, List.mem_append]
    exact .inr List.mem_cons_self
  exact Nat.le_antisymm (List.nodup_iff_count.mp once _) (List.count_pos_iff.mpr due)

/-- Only bytes can be read again. -/
theorem contentAt_replayable_iff (owner : Owner) (layer : Nat) (body : Body)
    (hook : Option Hook) :
    (contentAt owner layer body hook).replayable = true ↔ ∃ data, body = .bytes data := by
  cases body with
  | bytes data => exact iff_of_true rfl ⟨data, rfl⟩
  | chunks | stream => exact iff_of_false Bool.false_ne_true nofun
  | content body inside =>
      refine iff_of_false ?_ nofun
      simp only [contentAt, Content.enclosed, Content.replayable]
      cases (contentAt owner (layer + 1) body inside).supply <;> exact Bool.false_ne_true

end Body

/-! ## Keeping a record -/

/-- A record of what parties give. -/
structure Parties.Record where
  /-- The responses of the token service. -/
  responses : List Response := []
  /-- What was observed. -/
  events : List Event := []

namespace Parties.Record

/-- The record with one more response. -/
def receive (response : Response) (record : Record) : Record :=
  { record with responses := record.responses ++ [response] }

/-- The record with more events. -/
def observe (events : List Event) (record : Record) : Record :=
  { record with events := record.events ++ events }

theorem observe_observe (events later : List Event) (record : Record) :
    (record.observe events).observe later = record.observe (events ++ later) := by
  simp only [observe, List.append_assoc]

end Parties.Record

namespace Act

variable {World α : Type}

/-- A computation whose value is put on record. -/
def recorded (note : α → Parties.Record → Parties.Record) (act : Act World α) :
    Act (World × Parties.Record) α :=
  fun (world, record) =>
    match act world with
    | .ok value after => .ok value (after, note value record)
    | .error failure after => .error failure (after, record)

theorem finish_recorded (note : α → Parties.Record → Parties.Record) (act : Act World α)
    (world : World) (record : Parties.Record) :
    finish (recorded note act) (world, record) =
      match finish act world with
      | (after, .ok value) => ((after, note value record), .ok value)
      | (after, .error failure) => ((after, record), .error failure) := by
  simp only [finish, EStateM.run, recorded]
  cases act world <;> rfl

/-- A computation that is not put on record. -/
def unrecorded (act : Act World α) : Act (World × Parties.Record) α :=
  recorded (fun _ record => record) act

theorem finish_unrecorded (act : Act World α) (world : World) (record : Parties.Record) :
    finish (unrecorded act) (world, record) =
      (((finish act world).1, record), (finish act world).2) := by
  rw [unrecorded, finish_recorded]
  rcases finish act world with ⟨after, _ | _⟩ <;> rfl

end Act

namespace Parties

open Act

variable {World : Type} (parties : Parties World)

/-- The parties, and a record is kept of their responses and of what is observed. -/
def recording : Parties (World × Record) where
  observe event := fun (world, record) => (parties.observe event world, record.observe [event])
  dial secure host port := fun (world, record) =>
    let (send, opened) := parties.dial secure host port world
    (fun line headers body => recorded .receive (send line headers body), opened, record)
  realmAuth headers := unrecorded (parties.realmAuth headers)
  fallback headers := unrecorded (parties.fallback headers)
  token := parties.token

theorem observeAll_append (events later : List Event) (world : World) :
    parties.observeAll (events ++ later) world =
      parties.observeAll later (parties.observeAll events world) :=
  List.foldl_append

theorem observeAll_recording (events : List Event) (world : World) (record : Record) :
    parties.recording.observeAll events (world, record) =
      (parties.observeAll events world, record.observe events) := by
  induction events generalizing world record with
  | nil =>
      rw [Record.observe, List.append_nil]
      rfl
  | cons event others induction =>
      refine (induction (parties.observe event world) (record.observe [event])).trans ?_
      rw [Record.observe_observe]
      rfl

section Exchanges

variable {parties : Parties World} {target : RealmTarget} {before middle after : World}
variable {credentials : Headers}

theorem asked_recording {outcome : Except Failure Headers}
    (asking : parties.asked target before = (after, outcome)) (record : Record) :
    parties.recording.asked target (before, record) =
      ((after, record.observe [.log (.requestingToken target)]), outcome) := by
  have recorded_eq := finish_unrecorded (parties.realmAuth .empty)
    (parties.observe (.log (.requestingToken target)) (parties.way target before).2)
    (record.observe [.log (.requestingToken target)])
  rw [asked] at asking
  rw [asking] at recorded_eq
  exact recorded_eq

theorem sent_recording {outcome : Except Failure Response}
    (sending : parties.sent target before credentials middle = (after, outcome))
    (earlier record : Record) :
    parties.recording.sent target (before, earlier) credentials (middle, record) =
      match outcome with
      | .ok response => ((after, record.receive response), .ok response)
      | .error failure => ((after, record), .error failure) := by
  have recorded_eq := finish_recorded .receive
    ((parties.way target before).1 (some (target.line "GET".toList)) credentials .none) middle
    record
  rw [sent] at sending
  rw [sending] at recorded_eq
  refine Eq.trans recorded_eq ?_
  cases outcome <;> rfl

end Exchanges

/-- The log record of a response that is no success. -/
def statusLog (target : RealmTarget) (response : Response) : List Event :=
  if Authenticator.isSuccess response.status then []
  else [.log (.realmStatus target.host response.status)]

theorem heard_recording (target : RealmTarget) (response : Response) (world : World)
    (record : Record) :
    parties.recording.heard target response (world, record) =
      (parties.heard target response world,
        record.observe (statusLog target response ++ response.body.read.events)) := by
  rw [heard, heard, statusLog, ← Record.observe_observe]
  cases Authenticator.isSuccess response.status with
  | true =>
      have nothing : record.observe [] = record := by rw [Record.observe, List.append_nil]
      rw [if_pos rfl, if_pos rfl, if_pos rfl, nothing]
      exact observeAll_recording parties _ world record
  | false => exact observeAll_recording parties _ _ _

/-- No response was given and nothing was released, or one response was given and what reading it
releases was released. -/
def Record.Settled (record : Record) : Prop :=
  (record.responses = [] ∧ closings record.events = []) ∨
    ∃ response, record.responses = [response] ∧
      closings record.events = closings response.body.read.events

/-- A fetch is the same when it is recorded, and it settles what is recorded. -/
theorem fetch_recording (target : RealmTarget) (before : World) {events : List Event}
    (unreleased : closings events = []) :
    ∃ after outcome record, finish (parties.fetch target) before = (after, outcome) ∧
      finish (parties.recording.fetch target) (before, { events }) = ((after, record), outcome) ∧
      record.Settled := by
  let opened : List Event := events ++ [.log (.requestingToken target)]
  have logged : closings opened = [] := by
    rw [closings_append, unreleased]
    rfl
  rcases asking : parties.asked target before with ⟨middle, failure | credentials⟩
  · exact ⟨_, _, _, finish_fetch_of_refused asking,
      finish_fetch_of_refused (asked_recording asking { events }), .inl ⟨rfl, logged⟩⟩
  have asking_recorded := asked_recording asking { events }
  rcases sending : parties.sent target before credentials middle with
    ⟨answered, failure | response⟩
  · exact ⟨_, _, _, finish_fetch_of_failed asking sending,
      finish_fetch_of_failed asking_recorded (sent_recording sending _ _), .inl ⟨rfl, logged⟩⟩
  have fetched := finish_fetch_of_answered asking_recorded (sent_recording sending _ _)
  rw [heard_recording] at fetched
  refine ⟨_, _, _, finish_fetch_of_answered asking sending, fetched, .inr ⟨response, rfl, ?_⟩⟩
  have silent : closings (statusLog target response) = [] := by
    rw [statusLog]
    split <;> rfl
  calc
    closings (opened ++ (statusLog target response ++ response.body.read.events))
      = closings opened ++ (closings (statusLog target response) ++
          closings response.body.read.events) := by
        rw [closings_append opened, closings_append (statusLog target response)]
    _ = closings response.body.read.events := by
        rw [logged, silent]
        rfl

theorem closings_logs {events : List Event}
    (logs : ∀ event ∈ events, ∃ record, event = .log record) : closings events = [] := by
  refine List.filter_eq_nil_iff.mpr fun event member => ?_
  obtain ⟨record, rfl⟩ := logs event member
  exact Bool.false_ne_true

/-- What becomes of headers is up to them alone: after log records they are exchanged for a token,
handed on to the fallback, or the end. -/
theorem finish_answer_cases (headers : Headers) : ∃ logs, closings logs = [] ∧
    ((∃ target, ∀ {World : Type} (parties : Parties World) (before : World),
        finish (parties.answer headers) before =
          finish (parties.fetch target) (parties.observeAll logs before)) ∨
      (∀ {World : Type} (parties : Parties World) (before : World),
        finish (parties.answer headers) before =
          finish (parties.fallback headers) (parties.observeAll logs before)) ∨
      ∃ failure, ∀ {World : Type} (parties : Parties World) (before : World),
        finish (parties.answer headers) before =
          (parties.observeAll logs before, .error failure)) := by
  let rejected := Authenticator.rejections headers
  have unreleased : closings rejected = [] :=
    closings_logs (Authenticator.rejections_are_logs headers)
  cases search : (Challenge.findBearer headers).2 with
  | none =>
      refine ⟨rejected, unreleased, .inr (.inl fun parties before => ?_)⟩
      simp only [answer, finish_bind, finish_logs, search]
      rfl
  | some challenge =>
      cases accepted : challenge.target with
      | ok target =>
          exact ⟨rejected, unreleased, .inl ⟨target, fun parties before =>
            finish_answer_of_target parties search accepted before⟩⟩
      | error refusal =>
          have logged : closings (rejected ++ [.log (.unusableChallenge refusal)]) = [] := by
            rw [closings_append, unreleased]
            rfl
          cases refusal with
          | unsplittable error =>
              refine ⟨rejected, unreleased, .inr (.inr ⟨.realmUri error, fun parties before => ?_⟩)⟩
              simp only [answer, finish_bind, finish_logs, search, accepted]
              rfl
          | noRealm _ | notAbsolute _ | port _ =>
              refine ⟨_, logged, .inr (.inl fun parties before => ?_)⟩
              simp only [answer, finish_bind, finish_logs, search, accepted]
              rw [log, finish_modify, observeAll_append]
              rfl

/-- An answer is the same when it is recorded, and it settles what is recorded. -/
theorem answer_recording (headers : Headers) (before : World) :
    ∃ after outcome record, finish (parties.answer headers) before = (after, outcome) ∧
      finish (parties.recording.answer headers) (before, {}) = ((after, record), outcome) ∧
      record.Settled := by
  obtain ⟨logs, unreleased, cases⟩ := finish_answer_cases headers
  let logged := parties.observeAll logs before
  have logged_eq : parties.recording.observeAll logs (before, {}) =
      (logged, { events := logs }) := parties.observeAll_recording logs before {}
  rcases cases with ⟨target, exchanged⟩ | handed | ⟨failure, failed⟩
  · obtain ⟨after, outcome, record, fetched, recorded, settled⟩ :=
      parties.fetch_recording target logged unreleased
    refine ⟨after, outcome, record, ?_, ?_, settled⟩
    · rw [exchanged, fetched]
    · rw [exchanged, logged_eq, recorded]
  · refine ⟨_, _, { events := logs }, handed parties before, ?_, .inl ⟨rfl, unreleased⟩⟩
    rw [handed, logged_eq]
    exact finish_unrecorded _ _ _
  · refine ⟨_, _, { events := logs }, failed parties before, ?_, .inl ⟨rfl, unreleased⟩⟩
    rw [failed, logged_eq]

/-- A Bearer authenticator, whose parties may be of any kind, gets one response of the token service
at most, and reads it.  By the time it answers or fails, reading has released what was still to be
released of the response, unless that can be read again: the release of a fresh content over a body
is run once, unless the body is bytes in memory, and then it is not run; and that of a response from
an HTTP client is run once.  Neither the status nor the outcome makes a difference. -/
theorem answer_releases_response (headers : Headers) :
    (∀ (World : Type) (parties : Parties World) (before : World), ∃ after outcome record,
      finish (parties.answer headers) before = (after, outcome) ∧
      finish (parties.recording.answer headers) (before, {}) = ((after, record), outcome) ∧
      record.responses.length ≤ 1 ∧
      ∀ response ∈ record.responses,
        closings record.events = (if response.body.replayable then [] else response.body.due) ∧
        (∀ owner body hook, response.body = Body.contentOver owner body (some hook) →
          ((∃ data, body = .bytes data) ∧ .close owner 0 ∉ record.events) ∨
            ((∀ data, body ≠ .bytes data) ∧ record.events.count (.close owner 0) = 1)) ∧
        ∀ owner body, response.body = Body.received owner body →
          record.events.count (.close owner 0) = 1) ∧
    ∀ dialer format fallback realmAuth,
      (Authenticator.bearer dialer format fallback realmAuth).answer =
        (Authenticator.parties dialer format fallback realmAuth).answer := by
  refine ⟨fun World parties before => ?released, fun dialer format fallback realmAuth =>
    (Authenticator.answer_parties dialer format fallback realmAuth).symm⟩
  obtain ⟨after, outcome, record, answered, recorded, settled⟩ :=
    parties.answer_recording headers before
  refine ⟨after, outcome, record, answered, recorded, ?_⟩
  rcases settled with ⟨none_given, -⟩ | ⟨response, given, released⟩
  · rw [none_given]
    exact ⟨Nat.zero_le 1, fun response member => absurd member List.not_mem_nil⟩
  rw [given]
  refine ⟨Nat.le_refl 1, fun found member => ?_⟩
  obtain rfl := List.mem_singleton.mp member
  have count_eq (owner : Owner) : record.events.count (.close owner 0) =
      (if found.body.replayable then [] else found.body.due).count (.close owner 0) := by
    rw [← Content.closings_read, ← released, count_closings]
  refine ⟨released.trans found.body.closings_read, fun owner body hook fresh => ?_,
    fun owner body fresh => ?_⟩
  · have replayable_iff := Body.contentAt_replayable_iff owner 0 body (some hook)
    rw [← Body.contentOver, ← fresh] at replayable_iff
    cases replayable : found.body.replayable with
    | true =>
        refine .inl ⟨replayable_iff.mp replayable, ?_⟩
        rw [← List.count_eq_zero, count_eq, replayable]
        rfl
    | false =>
        refine .inr ⟨fun data same => ?_, ?_⟩
        · rw [replayable_iff.mpr ⟨data, same⟩] at replayable
          cases replayable
        · rw [count_eq, replayable, fresh]
          exact Body.contentAt_count_due owner 0 body hook
  · obtain ⟨source, content_eq, -, -⟩ := body.received_eq owner
    have once : found.body.replayable = false := by rw [fresh, content_eq, Content.replayable]
    rw [count_eq, once, fresh, content_eq]
    exact Body.contentAt_count_due owner 0 body .quiet

/-- A response with bytes in memory gives its token and is not released. -/
theorem answer_keeps_response_of_bytes :
    let headers : Headers :=
      .single "WWW-Authenticate".toList "Bearer realm=\"https://h/t\"".toList
    let body : Body := .bytes (Utf8.encode "\x7b\"access_token\":\"T\"\x7d".toList)
    let network : Network := { realm := { pending := [.response 200 .empty body (some .quiet)] } }
    let format : TokenFormat := .json TokenFormat.defaultField 900
    let call := (Authenticator.bearer .recorded format .anonymous .anonymous).answer headers
    Run.result call network = .ok (Authenticator.bearerHeaders ['T']) ∧
      .close (.reply .realm 0) 0 ∉ Run.observed call network :=
  ⟨Run.eq_ok_of_toOption (by decide +kernel), by decide +kernel⟩

end Parties
end HttpAuth
