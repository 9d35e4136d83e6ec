import HttpAuth.Proofs.Contacts
import HttpAuth.Proofs.Course
import HttpAuth.Proofs.Realm

/-!
# One exchange at most

However authenticators are nested, one answer makes one request for a token at most.  Without a
challenge there is none: the answer is that of the leaf at the end of the fallbacks.  A challenge is
usable for all Bearer authenticators or for none of them, so that the outermost one makes the
exchange, or else the leaf answers.  The credentials for the exchange are an answer without a
challenge, and so they never start another exchange.
-/

namespace HttpAuth

open Run

namespace Authenticator

/-- The authenticator at the end of the fallbacks. -/
def leaf : Authenticator → Authenticator
  | .bearer _ _ fallback _ => fallback.leaf
  | authenticator => authenticator

theorem leaf_ne_bearer (authenticator : Authenticator) (dialer : Dialer) (format : TokenFormat)
    (fallback realmAuth : Authenticator) :
    authenticator.leaf ≠ bearer dialer format fallback realmAuth := by
  induction authenticator with
  | anonymous | fixed | basic | scripted => nofun
  | bearer _ _ _ _ induction _ => exact induction

theorem silent_leaf (authenticator : Authenticator) (headers : Headers) :
    Silent (authenticator.leaf.answer headers) := by
  induction authenticator with
  | anonymous => exact silent_pure _
  | fixed given => exact silent_pure _
  | basic username password => exact silent_pure _
  | scripted number name => exact (silent_emit rfl).bind fun _ => silent_verdict number name
  | bearer dialer format fallback realmAuth induction _ => exact induction

/-! ## Answers without a challenge -/

theorem bearer_answer_empty (dialer : Dialer) (format : TokenFormat)
    (fallback realmAuth : Authenticator) :
    (bearer dialer format fallback realmAuth).answer .empty = fallback.answer .empty := rfl

theorem answer_empty (authenticator : Authenticator) :
    authenticator.answer .empty = authenticator.leaf.answer .empty := by
  induction authenticator with
  | anonymous | fixed | basic | scripted => rfl
  | bearer dialer format fallback realmAuth induction _ =>
      rw [bearer_answer_empty, induction, leaf]

theorem silent_answer_empty (authenticator : Authenticator) :
    Silent (authenticator.answer .empty) := by
  rw [answer_empty]
  exact authenticator.silent_leaf .empty

/-- Only answers without a challenge are asked of the authenticator for the token service. -/
theorem bearer_answer_of_bearer_realm (dialer inner_dialer : Dialer)
    (format inner_format : TokenFormat) (fallback realmAuth other : Authenticator)
    (headers : Headers) :
    (bearer dialer format fallback (bearer inner_dialer inner_format realmAuth other)).answer
        headers =
      (bearer dialer format fallback realmAuth).answer headers := rfl

/-! ## Runs that differ in log records -/

namespace LogsThen

variable {α : Type} {action middle other : Run α} {network : Network}

theorem refl (blind : Blind action) : LogsThen action action network := by
  have none_logged : ∀ event ∈ ([] : List Event), ∃ record, event = .log record := by
    intro event member
    cases member
  have finish_eq : finish action network = finish action (network.observe []) := by
    rw [Network.observe_nil]
  exact logsThen_of_blind blind none_logged finish_eq

theorem observed_eq (logged : LogsThen action other network) :
    ∃ logs : List Event, (∀ event ∈ logs, ∃ record, event = .log record) ∧
      observed action network = logs ++ observed other network := by
  obtain ⟨logs, records, finish_eq⟩ := logged
  refine ⟨logs, records, observed_of_trace ?_⟩
  rw [final_eq, finish_eq, List.append_assoc]

theorem trans (first : LogsThen action middle network) (second : LogsThen middle other network) :
    LogsThen action other network := by
  obtain ⟨later, later_records, middle_observed⟩ := second.observed_eq
  obtain ⟨logs, records, action_eq⟩ := first
  obtain ⟨_, _, middle_eq⟩ := second
  refine ⟨logs ++ later, ?_, ?_⟩
  · intro event member
    rcases List.mem_append.mp member with early | late
    · exact records event early
    · exact later_records event late
  · rw [action_eq, middle_observed, final_eq middle, result_eq middle, middle_eq]
    simp

theorem contacts_eq (logged : LogsThen action other network) :
    contacts action network = contacts other network := by
  obtain ⟨logs, records, observed_eq⟩ := logged.observed_eq
  have none_made : logs.filter Event.isContact = [] := by
    apply List.filter_eq_nil_iff.mpr
    intro event member
    obtain ⟨record, rfl⟩ := records event member
    exact Bool.false_ne_true
  rw [contacts, observed_eq, List.filter_append, none_made, List.nil_append]
  rfl

end LogsThen
end Authenticator

/-- The event is a log record. -/
def Event.isLog : Event → Bool
  | .log _ => true
  | _ => false

/-- The network without log records. -/
def Network.unlogged (network : Network) : Network :=
  { network with trace := network.trace.filter (!·.isLog) }

namespace Authenticator

/-- Two runs have the same result and leave the same network but for log records. -/
def SameButLogs {α : Type} (action other : Run α) (network : Network) : Prop :=
  result action network = result other network ∧
    (final action network).unlogged = (final other network).unlogged

theorem LogsThen.sameButLogs {α : Type} {action other : Run α} {network : Network}
    (logged : LogsThen action other network) (blind : Blind other) :
    SameButLogs action other network := by
  obtain ⟨logs, records, finish_eq⟩ := logged
  have logs_only : logs.filter (!·.isLog) = [] := by
    apply List.filter_eq_nil_iff.mpr
    intro event member
    obtain ⟨record, rfl⟩ := records event member
    exact Bool.false_ne_true
  constructor
  · rw [result_eq, finish_eq]
  · rw [final_eq, finish_eq]
    simp only [Network.unlogged, blind.trace_final, List.filter_append, logs_only, List.append_nil]

theorem SameButLogs.symm {α : Type} {action other : Run α} {network : Network}
    (same : SameButLogs action other network) : SameButLogs other action network :=
  ⟨same.1.symm, same.2.symm⟩

theorem SameButLogs.trans {α : Type} {action middle other : Run α} {network : Network}
    (first : SameButLogs action middle network) (second : SameButLogs middle other network) :
    SameButLogs action other network :=
  ⟨first.1.trans second.1, first.2.trans second.2⟩

/-! ## Answers to a challenge -/

/-- There is no challenge in the headers that a Bearer authenticator acts on. -/
def HandsOn (headers : Headers) : Prop :=
  ∀ challenge, (Challenge.findBearer headers).2 = some challenge →
    ∃ refusal, challenge.target = .error refusal ∧ ∀ error, refusal ≠ .unsplittable error

/-- A challenge is usable or unsplittable for all authenticators, or all hand it on. -/
theorem handsOn_cases (headers : Headers) :
    (∃ challenge target, (Challenge.findBearer headers).2 = some challenge ∧
      challenge.target = .ok target) ∨
    (∃ challenge error, (Challenge.findBearer headers).2 = some challenge ∧
      challenge.target = .error (.unsplittable error)) ∨
    HandsOn headers := by
  cases search : (Challenge.findBearer headers).2 with
  | none => exact .inr (.inr (by simp [HandsOn, search]))
  | some challenge =>
      cases reached : challenge.target with
      | ok target => exact .inl ⟨challenge, target, rfl, reached⟩
      | error refusal =>
          by_cases unsplittable : ∃ error, refusal = .unsplittable error
          · obtain ⟨error, rfl⟩ := unsplittable
            exact .inr (.inl ⟨challenge, error, rfl, reached⟩)
          · refine .inr (.inr ?_)
            intro other found
            obtain rfl := Option.some.inj (search.symm.trans found)
            exact ⟨refusal, reached, fun error same => unsplittable ⟨error, same⟩⟩

/-- Headers that are handed on make a Bearer authenticator log some records and go on as its
fallback does. -/
theorem finish_bearer_of_handsOn {headers : Headers} (handed : HandsOn headers) :
    ∃ logs : List Event, (∀ event ∈ logs, ∃ record, event = .log record) ∧
      ∀ dialer format fallback realmAuth network,
        finish ((bearer dialer format fallback realmAuth).answer headers) network =
          finish (fallback.answer headers) (network.observe logs) := by
  have records := rejections_are_logs headers
  cases search : (Challenge.findBearer headers).2 with
  | none =>
      exact ⟨_, records, fun dialer format fallback realmAuth network =>
        finish_bearer_of_none dialer format fallback realmAuth network search⟩
  | some challenge =>
      obtain ⟨refusal, refused, other⟩ := handed challenge search
      refine ⟨_, ?_, fun dialer format fallback realmAuth network =>
        finish_bearer_of_refused dialer format fallback realmAuth network search refused other⟩
      simpa [or_imp, forall_and] using records

section Bearer

variable (dialer : Dialer) (format : TokenFormat) (fallback realmAuth : Authenticator)
variable {headers : Headers} (network : Network)

theorem bearer_hands_on (handed : HandsOn headers) :
    LogsThen ((bearer dialer format fallback realmAuth).answer headers)
      (fallback.answer headers) network := by
  obtain ⟨logs, records, finished⟩ := finish_bearer_of_handsOn handed
  exact logsThen_of_blind (fallback.blind_answer headers) records
    (finished dialer format fallback realmAuth network)

variable {challenge : Challenge} (search : (Challenge.findBearer headers).2 = some challenge)
include search

theorem bearer_exchanges {target : RealmTarget} (accepted : challenge.target = .ok target) :
    LogsThen ((bearer dialer format fallback realmAuth).answer headers)
      (fetch dialer format (realmAuth.leaf.answer .empty) target) network := by
  have blind := blind_fetch dialer format (realmAuth.blind_answer .empty) target
  rw [← answer_empty]
  exact logsThen_of_blind blind (rejections_are_logs headers)
    (finish_bearer_of_target dialer format fallback realmAuth network search accepted)

theorem bearer_fails {error : Uri.Error}
    (refused : challenge.target = .error (.unsplittable error)) :
    LogsThen ((bearer dialer format fallback realmAuth).answer headers)
      (throw (.realmUri error)) network :=
  logsThen_of_blind (blind_throw _) (rejections_are_logs headers)
    (finish_bearer_of_unsplittable dialer format fallback realmAuth network search refused)

end Bearer

/-- Headers that are handed on reach the leaf. -/
theorem logsThen_leaf {headers : Headers} (handed : HandsOn headers)
    (authenticator : Authenticator) (network : Network) :
    LogsThen (authenticator.answer headers) (authenticator.leaf.answer headers) network := by
  induction authenticator with
  | anonymous | fixed | basic | scripted => exact .refl (blind_answer _ headers)
  | bearer dialer format fallback realmAuth induction _ =>
      exact (bearer_hands_on dialer format fallback realmAuth network handed).trans induction

/-- The leaf answers, or the outermost Bearer authenticator makes the exchange, or it fails for a
realm that cannot be split. -/
theorem answer_cases (authenticator : Authenticator) (headers : Headers) (network : Network) :
    let answer := authenticator.answer headers
    LogsThen answer (authenticator.leaf.answer headers) network ∨
      (∃ error, LogsThen answer (throw (.realmUri error)) network) ∨
      ∃ dialer format fallback realmAuth challenge target,
        authenticator = bearer dialer format fallback realmAuth ∧
        (Challenge.findBearer headers).2 = some challenge ∧ challenge.target = .ok target ∧
        LogsThen answer (fetch dialer format (realmAuth.leaf.answer .empty) target) network := by
  cases authenticator with
  | anonymous | fixed | basic | scripted => exact .inl (.refl (blind_answer _ headers))
  | bearer dialer format fallback realmAuth =>
      rcases handsOn_cases headers with ⟨challenge, target, search, accepted⟩ |
        ⟨challenge, error, search, refused⟩ | handed
      · exact .inr (.inr ⟨dialer, format, fallback, realmAuth, challenge, target, rfl, search,
          accepted, bearer_exchanges dialer format fallback realmAuth network search accepted⟩)
      · exact .inr (.inl ⟨error,
          bearer_fails dialer format fallback realmAuth network search refused⟩)
      · exact .inl (logsThen_leaf handed _ network)

/-- A Bearer authenticator as a fallback can be replaced by its own fallback. -/
theorem bearer_answer_of_bearer_fallback (dialer inner_dialer : Dialer)
    (format inner_format : TokenFormat) (fallback realmAuth other : Authenticator)
    (headers : Headers) (network : Network) :
    SameButLogs
      ((bearer dialer format (bearer inner_dialer inner_format fallback other) realmAuth).answer
        headers)
      ((bearer dialer format fallback realmAuth).answer headers) network := by
  let inner := bearer inner_dialer inner_format fallback other
  rcases handsOn_cases headers with ⟨challenge, target, search, accepted⟩ |
    ⟨challenge, error, search, refused⟩ | handed
  · have blind := blind_fetch dialer format (realmAuth.leaf.blind_answer .empty) target
    have nested := bearer_exchanges dialer format inner realmAuth network search accepted
    have plain := bearer_exchanges dialer format fallback realmAuth network search accepted
    exact (nested.sameButLogs blind).trans (plain.sameButLogs blind).symm
  · have nested := bearer_fails dialer format inner realmAuth network search refused
    have plain := bearer_fails dialer format fallback realmAuth network search refused
    exact (nested.sameButLogs (blind_throw _)).trans (plain.sameButLogs (blind_throw _)).symm
  · have blind := fallback.blind_answer headers
    have nested := bearer_hands_on dialer format inner realmAuth network handed
    have handed_twice := bearer_hands_on inner_dialer inner_format fallback other network handed
    have plain := bearer_hands_on dialer format fallback realmAuth network handed
    exact ((nested.trans handed_twice).sameButLogs blind).trans (plain.sameButLogs blind).symm

/-- An answer makes one request at most. -/
theorem count_contacts_answer_le (authenticator : Authenticator) (headers : Headers)
    (network : Network) :
    (contacts (authenticator.answer headers) network).countP Event.isRequest ≤ 1 := by
  rcases authenticator.answer_cases headers network with answered | ⟨error, failed⟩ |
    ⟨dialer, format, fallback, realmAuth, challenge, target, -, -, -, exchanged⟩
  · rw [answered.contacts_eq, (authenticator.silent_leaf headers).contacts_eq_nil]
    exact Nat.zero_le 1
  · rw [failed.contacts_eq, (silent_throw _).contacts_eq_nil]
    exact Nat.zero_le 1
  · rw [exchanged.contacts_eq, contacts_fetch dialer format (realmAuth.silent_leaf .empty)]
    exact count_tokenContacts_le dialer target _

end Authenticator

namespace Service

/-- These are the contacts of one of the runs, or there are none. -/
def AtMostOne {ι α : Type} (runs : ι → Run α) (part : List Event) : Prop :=
  part = [] ∨ ∃ input network, part = contacts (runs input) network

section Authenticated

variable {send : Headers → Body → Run Response} {authenticator : Authenticator}
variable {line : Option Text} {headers : Headers} {body : Body} {before after : Network}

/-- The requests of one call. -/
def calls (send : Headers → Body → Run Response) (input : Headers × Body) : Run Response :=
  send input.1 input.2

theorem atMostOne_call (headers : Headers) (body : Body) (network : Network) :
    AtMostOne (calls send) (contacts (send headers body) network) :=
  .inr ⟨(headers, body), network, rfl⟩

theorem Opening.contacts_eq {outcome : Except Failure (Octets × Response)}
    (blind : ∀ headers body, Blind (send headers body))
    (opening : Opening send authenticator line headers body before after outcome) :
    ∃ first, AtMostOne (calls send) first ∧ after.contacts = before.contacts ++ first := by
  have silent_body : Silent (readBody .caller body) := silent_read _
  have silent_first := authenticator.silent_answer_empty
  cases opening with
  | unread reading =>
      refine ⟨[], .inl rfl, ?_⟩
      rw [silent_body.contacts_of_finish reading, List.append_nil]
  | unasked reading asking =>
      refine ⟨[], .inl rfl, ?_⟩
      rw [silent_first.contacts_of_finish asking, silent_body.contacts_of_finish reading,
        List.append_nil]
  | unsent reading asking sending | answered reading asking sending =>
      have sent := (blind _ _).contacts_of_finish sending
      rw [contacts_observe_log, silent_first.contacts_of_finish asking,
        silent_body.contacts_of_finish reading] at sent
      exact ⟨_, atMostOne_call _ _ _, sent⟩

theorem Meeting.contacts_eq {data : Octets} {challenge : Response}
    {outcome : Except Failure Response} (blind : ∀ headers body, Blind (send headers body))
    (meeting : Meeting send authenticator line headers data challenge before after outcome) :
    ∃ exchange second, AtMostOne authenticator.answer exchange ∧
      AtMostOne (calls send) second ∧
      after.contacts = before.contacts ++ exchange ++ second := by
  have blind_answer := authenticator.blind_answer challenge.headers
  have silent_release := silent_release challenge
  have asked_once : AtMostOne authenticator.answer
      (contacts (authenticator.answer challenge.headers) before) := .inr ⟨_, _, rfl⟩
  cases meeting with
  | unmet asking releasing cause =>
      refine ⟨_, [], asked_once, .inl rfl, ?_⟩
      rw [silent_release.contacts_of_finish releasing, blind_answer.contacts_of_finish asking,
        List.append_nil]
  | declined asking nothing =>
      refine ⟨_, [], asked_once, .inl rfl, ?_⟩
      rw [contacts_observe_log, blind_answer.contacts_of_finish asking, List.append_nil]
  | unreleased asking something releasing =>
      refine ⟨_, [], asked_once, .inl rfl, ?_⟩
      rw [silent_release.contacts_of_finish releasing, contacts_observe_log,
        blind_answer.contacts_of_finish asking, List.append_nil]
  | retried asking something releasing sending =>
      have sent := (blind _ _).contacts_of_finish sending
      rw [silent_release.contacts_of_finish releasing, contacts_observe_log,
        blind_answer.contacts_of_finish asking] at sent
      exact ⟨_, _, asked_once, atMostOne_call _ _ _, sent⟩

theorem Course.contacts_eq {outcome : Except Failure Response}
    (blind : ∀ headers body, Blind (send headers body))
    (course : Course send authenticator line headers body before after outcome) :
    ∃ first exchange second, AtMostOne (calls send) first ∧
      AtMostOne authenticator.answer exchange ∧ AtMostOne (calls send) second ∧
      after.contacts = before.contacts ++ (first ++ exchange ++ second) := by
  cases course with
  | failed opening | accepted opening _ =>
      obtain ⟨first, first_once, contacts_eq⟩ := opening.contacts_eq blind
      refine ⟨first, [], [], first_once, .inl rfl, .inl rfl, ?_⟩
      rw [contacts_eq, List.append_nil, List.append_nil]
  | challenged opening unauthorized meeting =>
      obtain ⟨first, first_once, opening_eq⟩ := opening.contacts_eq blind
      obtain ⟨exchange, second, exchange_once, second_once, meeting_eq⟩ :=
        meeting.contacts_eq blind
      refine ⟨first, exchange, second, first_once, exchange_once, second_once, ?_⟩
      rw [meeting_eq, opening_eq]
      simp only [List.append_assoc]

end Authenticated

/-- A request with credentials calls its service twice at most, and in between its authenticator is
asked about a challenge once at most. -/
theorem contacts_authenticated (inner : Service) (authenticator : Authenticator)
    (line : Option Text) (headers : Headers) (body : Body) (network : Network) :
    ∃ first exchange second, AtMostOne (calls (inner.respond line)) first ∧
      AtMostOne authenticator.answer exchange ∧ AtMostOne (calls (inner.respond line)) second ∧
      contacts ((authenticated inner authenticator).respond line headers body) network =
        first ++ exchange ++ second := by
  have course := course_of_authenticate (inner.respond line) authenticator line headers body network
  obtain ⟨first, exchange, second, first_once, exchange_once, second_once, contacts_eq⟩ :=
    course.contacts_eq (inner.blind_respond line)
  refine ⟨first, exchange, second, first_once, exchange_once, second_once, ?_⟩
  exact ((authenticated inner authenticator).blind_respond line headers body).contacts_eq network
    contacts_eq

theorem length_contacts_under_le {inner : Service}
    (once : ∀ line headers body network,
      (contacts (inner.respond line headers body) network).length ≤ 1)
    (path : Text) (line : Option Text) (headers : Headers) (body : Body) (network : Network) :
    (contacts ((under inner path).respond line headers body) network).length ≤ 1 := by
  rw [respond, (silent_ofExcept _ _).contacts_bind network fun parsed =>
    inner.blind_respond _ headers body]
  split
  · exact once _ headers body _
  · exact Nat.zero_le 1

/-- An endpoint under any paths makes one request at most. -/
theorem length_contacts_underAll_le (endpoint : Endpoint) (paths : List Text) (line : Option Text)
    (headers : Headers) (body : Body) (network : Network) :
    (contacts (((direct endpoint).underAll paths).respond line headers body) network).length ≤
      1 := by
  have general : ∀ inner : Service,
      (∀ line headers body network,
        (contacts (inner.respond line headers body) network).length ≤ 1) →
      ∀ line headers body network,
        (contacts ((inner.underAll paths).respond line headers body) network).length ≤ 1 := by
    induction paths with
    | nil => exact fun inner once => once
    | cons path others induction =>
        exact fun inner once => induction _ (length_contacts_under_le once path)
  apply general
  intro line headers body network
  rw [respond, Endpoint.contacts_respond]
  exact endpoint.length_requests_le line headers body

end Service

namespace Authenticator

/-- One exchange at most.  Without a challenge an authenticator contacts nobody and answers as its
leaf does.  To any headers it makes one request at most, which is the exchange of the outermost
Bearer authenticator with the credentials of a leaf.  A Bearer authenticator can be replaced by its
fallback where it is a fallback, but for log records, and where it is asked for the credentials of
an exchange.  So a request with credentials makes the exchange once at most, between two calls of
its service at most, and each call of an endpoint under any paths makes one request at most. -/
theorem exchange_at_most_once (authenticator : Authenticator) :
    (authenticator.answer .empty = authenticator.leaf.answer .empty ∧
      (∀ dialer format fallback realmAuth,
        authenticator.leaf ≠ bearer dialer format fallback realmAuth) ∧
      ∀ network, contacts (authenticator.answer .empty) network = []) ∧
    (∀ headers network,
      let answer := authenticator.answer headers
      (contacts answer network).countP Event.isRequest ≤ 1 ∧
        (contacts answer network = [] ∨
          ∃ dialer format fallback realmAuth challenge target,
            authenticator = bearer dialer format fallback realmAuth ∧
            (Challenge.findBearer headers).2 = some challenge ∧ challenge.target = .ok target ∧
            LogsThen answer (fetch dialer format (realmAuth.leaf.answer .empty) target) network ∧
            contacts answer network =
              tokenContacts dialer target (result (realmAuth.leaf.answer .empty) network))) ∧
    (∀ dialer inner_dialer format inner_format fallback other headers network,
      SameButLogs
          ((bearer dialer format (bearer inner_dialer inner_format fallback other)
            authenticator).answer headers)
          ((bearer dialer format fallback authenticator).answer headers) network ∧
        (bearer dialer format authenticator
            (bearer inner_dialer inner_format fallback other)).answer headers =
          (bearer dialer format authenticator fallback).answer headers) ∧
    (∀ inner line headers body network, ∃ first exchange second,
      contacts ((Service.authenticated inner authenticator).respond line headers body) network =
          first ++ exchange ++ second ∧
        Service.AtMostOne (Service.calls (inner.respond line)) first ∧
        Service.AtMostOne authenticator.answer exchange ∧
        exchange.countP Event.isRequest ≤ 1 ∧
        Service.AtMostOne (Service.calls (inner.respond line)) second) ∧
    ∀ endpoint paths line headers body network,
      (contacts (((Service.direct endpoint).underAll paths).respond line headers body)
        network).length ≤ 1 := by
  refine ⟨⟨authenticator.answer_empty, authenticator.leaf_ne_bearer,
    authenticator.silent_answer_empty.contacts_eq_nil⟩, ?answers, ?replaced, ?requests,
    Service.length_contacts_underAll_le⟩
  case answers =>
    intro headers network answer
    refine ⟨authenticator.count_contacts_answer_le headers network, ?_⟩
    rcases authenticator.answer_cases headers network with answered | ⟨error, failed⟩ |
      ⟨dialer, format, fallback, realmAuth, challenge, target, shape, search, accepted, exchanged⟩
    · refine .inl ?_
      rw [answered.contacts_eq, (authenticator.silent_leaf headers).contacts_eq_nil]
    · refine .inl ?_
      rw [failed.contacts_eq, (silent_throw _).contacts_eq_nil]
    · refine .inr ⟨dialer, format, fallback, realmAuth, challenge, target, shape, search, accepted,
        exchanged, ?_⟩
      rw [exchanged.contacts_eq, contacts_fetch dialer format (realmAuth.silent_leaf .empty)]
  case replaced =>
    intro dialer inner_dialer format inner_format fallback other headers network
    exact ⟨bearer_answer_of_bearer_fallback dialer inner_dialer format inner_format fallback
        authenticator other headers network,
      bearer_answer_of_bearer_realm dialer inner_dialer format inner_format authenticator fallback
        other headers⟩
  case requests =>
    intro inner line headers body network
    obtain ⟨first, exchange, second, first_once, exchange_once, second_once, contacts_eq⟩ :=
      inner.contacts_authenticated authenticator line headers body network
    refine ⟨first, exchange, second, contacts_eq, first_once, exchange_once, ?_, second_once⟩
    rcases exchange_once with rfl | ⟨asked, asked_network, rfl⟩
    · exact Nat.zero_le 1
    · exact authenticator.count_contacts_answer_le asked asked_network

end Authenticator
end HttpAuth
