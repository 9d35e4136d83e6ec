import Mathlib.Data.List.Forall2
import HttpAuth.Proofs.Refusal
import HttpAuth.Proofs.Secrecy

/-!
# What the log tells of refused challenges

The headers of two responses may differ in Bearer challenges that are refused for the same reasons.
Then a Bearer authenticator logs records of the same kinds, in the same order, but each record about
a refused challenge tells a part of it.  So the logs are the same exactly if those parts are.
-/

namespace HttpAuth

open Run

/-! ## Records of one kind -/

/-- Two records are the same, or both report challenges that are refused for the same reason. -/
inductive LogRecord.Alike : LogRecord → LogRecord → Prop where
  /-- They are the same. -/
  | same (record : LogRecord) : Alike record record
  /-- They report challenges that cannot be read. -/
  | malformed {error other : Challenge.Error} (alike : error.Alike other) :
      Alike (.malformedChallenge error) (.malformedChallenge other)
  /-- They report challenges that name no token service. -/
  | unusable {error other : Challenge.TargetError} (alike : error.Alike other) :
      Alike (.unusableChallenge error) (.unusableChallenge other)

namespace LogRecord

theorem Alike.level_eq {record other : LogRecord} (alike : record.Alike other) :
    record.level = other.level := by
  cases alike <;> rfl

theorem Alike.message_eq_iff {record other : LogRecord} (alike : record.Alike other) :
    record.message = other.message ↔ record = other := by
  cases alike with
  | same => exact ⟨fun _ => rfl, fun _ => rfl⟩
  | malformed alike =>
      refine (String.append_right_inj "Ignoring malformed Bearer challenge: ").trans ?_
      rw [alike.message_eq_iff, malformedChallenge.injEq]
  | unusable alike =>
      refine (String.append_right_inj "Unusable Bearer challenge, using fallback: ").trans ?_
      rw [alike.message_eq_iff, unusableChallenge.injEq]

theorem levels_eq {records others : List LogRecord} (alike : List.Forall₂ Alike records others) :
    records.map level = others.map level := by
  induction alike with
  | nil => rfl
  | cons first _ induction => rw [List.map_cons, List.map_cons, first.level_eq, induction]

theorem messages_eq_iff {records others : List LogRecord}
    (alike : List.Forall₂ Alike records others) :
    records.map message = others.map message ↔ records = others := by
  induction alike with
  | nil => exact ⟨fun _ => rfl, fun _ => rfl⟩
  | cons first _ induction =>
      rw [List.map_cons, List.map_cons, List.cons.injEq, List.cons.injEq, first.message_eq_iff,
        induction]

theorem alike_refl (records : List LogRecord) : List.Forall₂ Alike records records :=
  List.forall₂_same.mpr fun record _ => .same record

end LogRecord

namespace Challenge

/-! ## Refused challenges -/

/-- A field asks for Bearer authentication. -/
def AsksForBearer (field : Text × Text) : Prop :=
  IsChallengeName field.1 ∧ IsBearerValue field.2

/-- Two challenges name no token service for the same reason. -/
inductive UnusableAlike (challenge other : Challenge) : Prop where
  /-- Both have no realm, or one that names no service of the web. -/
  | refused {error other_error : TargetError} (refused : challenge.target = .error error)
      (other_refused : other.target = .error other_error) (alike : error.Alike other_error)
  /-- Both realms cannot be split as URIs. -/
  | unsplittable {error other_error : Uri.Error}
      (refused : challenge.target = .error (.unsplittable error))
      (other_refused : other.target = .error (.unsplittable other_error))

/-- Two values of headers are refused as challenges for the same reason. -/
inductive RefusedAlike (value other : Text) : Prop where
  /-- Both cannot be read. -/
  | malformed {error other_error : Error} (refused : parse (some value) = .error error)
      (other_refused : parse (some other) = .error other_error) (alike : error.Alike other_error)
  /-- Both are read, and name no token service. -/
  | unusable {challenge other_challenge : Challenge} (read : parse (some value) = .ok challenge)
      (other_read : parse (some other) = .ok other_challenge)
      (alike : UnusableAlike challenge other_challenge)

/-- Two sequences of fields differ at most in Bearer challenges that are refused for the same
reason. -/
inductive Varied : List (Text × Text) → List (Text × Text) → Prop where
  /-- No field is left. -/
  | nil : Varied [] []
  /-- A field is in both. -/
  | kept (field : Text × Text) {fields others : List (Text × Text)} (rest : Varied fields others) :
      Varied (field :: fields) (field :: others)
  /-- The values of a field are refused in both. -/
  | refused {name value other : Text} {fields others : List (Text × Text)}
      (asks : AsksForBearer (name, value)) (other_asks : AsksForBearer (name, other))
      (alike : RefusedAlike value other) (rest : Varied fields others) :
      Varied ((name, value) :: fields) ((name, other) :: others)

/-- Two searches find the same, or challenges that name no token service for the same reason. -/
inductive FoundAlike : Option Challenge → Option Challenge → Prop where
  /-- They find the same. -/
  | same (found : Option Challenge) : FoundAlike found found
  /-- They find challenges that name no token service. -/
  | unusable {challenge other : Challenge} (alike : UnusableAlike challenge other) :
      FoundAlike (some challenge) (some other)

section Search

variable {field : Text × Text} (others : List (Text × Text))

theorem findBearer_of_not_asks (idle : ¬AsksForBearer field) :
    findBearer ⟨field :: others⟩ = findBearer ⟨others⟩ := by
  rw [AsksForBearer, ← sameName_headerName_iff, ← isBearer_trim_iff, ← Bool.and_eq_true] at idle
  rw [findBearer, bearerValues_cons, if_neg idle]
  rfl

variable (asks : AsksForBearer field)
include asks

theorem findBearer_of_asks :
    findBearer ⟨field :: others⟩ = firstReadable (Text.trim field.2 :: bearerValues ⟨others⟩) := by
  rw [AsksForBearer, ← sameName_headerName_iff, ← isBearer_trim_iff, ← Bool.and_eq_true] at asks
  rw [findBearer, bearerValues_cons, if_pos asks]

theorem findBearer_of_read {challenge : Challenge} (read : parse (some field.2) = .ok challenge) :
    findBearer ⟨field :: others⟩ = ([], some challenge) := by
  rw [findBearer_of_asks others asks, firstReadable, parse_trim, read]

theorem findBearer_of_refused {error : Error} (refused : parse (some field.2) = .error error) :
    findBearer ⟨field :: others⟩ =
      (error :: (findBearer ⟨others⟩).1, (findBearer ⟨others⟩).2) := by
  rw [findBearer_of_asks others asks, firstReadable, parse_trim, refused]
  rfl

end Search

theorem findBearer_alike {fields others : List (Text × Text)} (varied : Varied fields others) :
    List.Forall₂ Error.Alike (findBearer ⟨fields⟩).1 (findBearer ⟨others⟩).1 ∧
      FoundAlike (findBearer ⟨fields⟩).2 (findBearer ⟨others⟩).2 := by
  induction varied with
  | nil => exact ⟨.nil, .same none⟩
  | @kept field fields others _ induction =>
      by_cases asks : AsksForBearer field
      · cases read : parse (some field.2) with
        | ok challenge =>
            rw [findBearer_of_read fields asks read, findBearer_of_read others asks read]
            exact ⟨.nil, .same _⟩
        | error error =>
            rw [findBearer_of_refused fields asks read, findBearer_of_refused others asks read]
            exact ⟨.cons error.alike_refl induction.1, induction.2⟩
      · rw [findBearer_of_not_asks fields asks, findBearer_of_not_asks others asks]
        exact induction
  | @refused name value other fields others asks other_asks alike _ induction =>
      cases alike with
      | malformed refused other_refused alike =>
          rw [findBearer_of_refused fields asks refused,
            findBearer_of_refused others other_asks other_refused]
          exact ⟨.cons alike induction.1, induction.2⟩
      | unusable read other_read alike =>
          rw [findBearer_of_read fields asks read, findBearer_of_read others other_asks other_read]
          exact ⟨.nil, .unusable alike⟩

/-! ## Reports -/

/-- What a search logs. -/
def searchLog (headers : Headers) : List LogRecord :=
  (findBearer headers).1.map .malformedChallenge

/-- The report about a challenge that names no token service; a realm that cannot be split is not
reported. -/
def refusal? (challenge : Challenge) : Option LogRecord :=
  match challenge.target with
  | .ok _ | .error (.unsplittable _) => none
  | .error error => some (.unusableChallenge error)

/-- What is logged about refused challenges. -/
def refusals (headers : Headers) : List LogRecord :=
  searchLog headers ++ ((findBearer headers).2.bind refusal?).toList

theorem refusal?_of_refused {challenge : Challenge} {error : TargetError}
    (refused : challenge.target = .error error)
    (splittable : ∀ cause, error ≠ .unsplittable cause) :
    challenge.refusal? = some (.unusableChallenge error) := by
  cases error with
  | unsplittable cause => exact absurd rfl (splittable cause)
  | _ => rw [refusal?, refused]

theorem refusal?_eq_some {challenge : Challenge} {record : LogRecord}
    (reported : challenge.refusal? = some record) :
    ∃ error, challenge.target = .error error ∧ (∀ cause, error ≠ .unsplittable cause) ∧
      record = .unusableChallenge error := by
  rw [refusal?] at reported
  split at reported
  · cases reported
  · cases reported
  · rename_i error splittable refused
    cases reported
    exact ⟨error, refused, splittable, rfl⟩

theorem UnusableAlike.refusal_alike {challenge other : Challenge}
    (alike : UnusableAlike challenge other) :
    List.Forall₂ LogRecord.Alike challenge.refusal?.toList other.refusal?.toList := by
  cases alike with
  | refused refused other_refused alike =>
      obtain ⟨splittable, other_splittable⟩ := alike.splittable
      rw [refusal?_of_refused refused splittable,
        refusal?_of_refused other_refused other_splittable]
      exact .cons (.unusable alike) .nil
  | unsplittable refused other_refused =>
      rw [refusal?, refusal?, refused, other_refused]
      exact .nil

theorem FoundAlike.refusal_alike {found other : Option Challenge} (alike : FoundAlike found other) :
    List.Forall₂ LogRecord.Alike (found.bind refusal?).toList (other.bind refusal?).toList := by
  cases alike with
  | same => exact LogRecord.alike_refl _
  | unusable alike => exact alike.refusal_alike

theorem searchLog_alike {headers other : Headers} (varied : Varied headers.items other.items) :
    List.Forall₂ LogRecord.Alike (searchLog headers) (searchLog other) := by
  rw [searchLog, searchLog, List.forall₂_map_left_iff, List.forall₂_map_right_iff]
  exact (findBearer_alike varied).1.imp fun _ _ alike => .malformed alike

theorem refusals_alike {headers other : Headers} (varied : Varied headers.items other.items) :
    List.Forall₂ LogRecord.Alike (refusals headers) (refusals other) :=
  List.rel_append (searchLog_alike varied) (findBearer_alike varied).2.refusal_alike

/-! ## What a report tells -/

/-- A part of a challenge that is not empty: a part of its text, or its realm. -/
def IsPart (value part : Text) : Prop :=
  part ≠ [] ∧
    (part <:+: value ∨ ∃ challenge, parse (some value) = .ok challenge ∧ challenge.realm? = some part)

/-- The wording of a record holds a part of a challenge, as it is or in quotes. -/
def Tells (record : LogRecord) (value : Text) : Prop :=
  ∃ front part shown back, IsPart value part ∧ (shown = part ∨ shown = Text.quoted part) ∧
    record.message = front ++ String.ofList shown ++ back

theorem tells_of_quotation {record : LogRecord} {value part : Text} {front : String}
    (told : IsPart value part)
    (message_eq : record.message = front ++ String.ofList (Text.quoted part)) :
    Tells record value :=
  ⟨front, part, Text.quoted part, "", told, .inr rfl, by rw [String.append_empty, message_eq]⟩

theorem tells_of_malformed {value : Text} {error : Error} (asked : IsBearerValue value)
    (refused : parse (some value) = .error error) :
    Tells (.malformedChallenge error) value := by
  have some_text : ¬Text.Blank value := fun blank => not_isBearerValue_of_blank blank asked
  obtain ⟨front, part, filled, standing, message_eq⟩ := quotes_of_parse some_text refused
  have wording : (LogRecord.malformedChallenge error).message =
      "Ignoring malformed Bearer challenge: " ++ error.message := rfl
  rw [message_eq, ← String.append_assoc] at wording
  exact tells_of_quotation ⟨filled, .inl standing⟩ wording

theorem tells_of_unusable {value : Text} {challenge : Challenge} {error : TargetError}
    (read : parse (some value) = .ok challenge) (refused : challenge.target = .error error)
    (splittable : ∀ cause, error ≠ .unsplittable cause) :
    Tells (.unusableChallenge error) value := by
  have wording : (LogRecord.unusableChallenge error).message =
      "Unusable Bearer challenge, using fallback: " ++ error.message := rfl
  rcases message_of_target refused splittable with
    message_eq | ⟨front, realm, filled, given, message_eq⟩
  · obtain ⟨some_text, scheme_eq, -⟩ := parse_eq_ok read
    have told : IsPart value challenge.scheme := by
      rw [IsPart, scheme_eq]
      refine ⟨(Text.word_firstWord_trim some_text).1, .inl ?_⟩
      exact (List.takeWhile_prefix _).isInfix.trans (Text.isInfix_trim value)
    rw [message_eq, ← String.append_assoc] at wording
    exact ⟨_, challenge.scheme, challenge.scheme, _, told, .inl rfl, wording⟩
  · rw [message_eq, ← String.append_assoc] at wording
    exact tells_of_quotation ⟨filled, .inr ⟨challenge, read, given⟩⟩ wording

/-- Every report is about a field that asks for Bearer authentication, and tells a part of its
value. -/
theorem exists_of_mem_refusals {headers : Headers} {record : LogRecord}
    (reported : record ∈ refusals headers) :
    ∃ field ∈ headers.items, AsksForBearer field ∧ Tells record field.2 := by
  obtain ⟨fields⟩ := headers
  induction fields with
  | nil => cases reported
  | cons field others induction =>
      rw [refusals, searchLog] at reported
      by_cases asks : AsksForBearer field
      · cases read : parse (some field.2) with
        | ok challenge =>
            rw [findBearer_of_read others asks read] at reported
            have found : challenge.refusal? = some record := Option.mem_toList.mp reported
            obtain ⟨error, refused, splittable, rfl⟩ := refusal?_eq_some found
            exact ⟨field, List.mem_cons_self, asks, tells_of_unusable read refused splittable⟩
        | error error =>
            rw [findBearer_of_refused others asks read, List.map_cons, List.cons_append] at reported
            rcases List.mem_cons.mp reported with rfl | later
            · exact ⟨field, List.mem_cons_self, asks, tells_of_malformed asks.2 read⟩
            · obtain ⟨other, member, tells⟩ := induction later
              exact ⟨other, List.mem_cons_of_mem field member, tells⟩
      · rw [findBearer_of_not_asks others asks] at reported
        obtain ⟨other, member, tells⟩ := induction reported
        exact ⟨other, List.mem_cons_of_mem field member, tells⟩

end Challenge

/-! ## Runs -/

theorem Run.Blind.logged_eq {α : Type} {action other : Run α} {network : Network}
    {events : List Event} (blind : Blind other)
    (finished : finish action network = finish other (network.observe events)) :
    logged action network = events.filterMap Event.record? ++ logged other network := by
  have trace_eq : (final action network).trace =
      network.trace ++ (events ++ observed other network) := by
    rw [final_eq, finished, blind.finish_observe, List.append_assoc]
  rw [logged, observed_of_trace trace_eq, List.filterMap_append, logged]

theorem filterMap_record_logs (records : List LogRecord) :
    (records.map Event.log).filterMap Event.record? = records := by
  rw [List.filterMap_map]
  exact List.filterMap_some

theorem Run.logged_throw {α : Type} (failure : Failure) (network : Network) :
    logged (throw failure : Run α) network = [] := by
  simp [logged, observed, final]

namespace Authenticator

open Challenge

theorem logged_scripted (number : Nat) (name : Text) (headers : Headers) (network : Network) :
    logged ((scripted number name).answer headers) network =
      logged (verdict number name) network := by
  have finished : finish ((scripted number name).answer headers) network =
      finish (verdict number name) (network.observe [.authenticate name headers]) := rfl
  exact (blind_verdict number name).logged_eq finished

/-- What a Bearer authenticator does after its report about refused challenges. -/
def sequel (dialer : Dialer) (format : TokenFormat) (fallback realmAuth : Run Headers) :
    Option Challenge → Run Headers
  | none => fallback
  | some challenge =>
      match challenge.target with
      | .ok target => fetch dialer format realmAuth target
      | .error (.unsplittable error) => throw (.realmUri error)
      | .error _ => fallback

section Bearer

variable (dialer : Dialer) (format : TokenFormat) (fallback realmAuth : Authenticator)

theorem sequel_of_refused {challenge : Challenge} {error : TargetError} (action other : Run Headers)
    (refused : challenge.target = .error error) (splittable : ∀ cause, error ≠ .unsplittable cause) :
    sequel dialer format action other (some challenge) = action := by
  cases error with
  | unsplittable cause => exact absurd rfl (splittable cause)
  | _ => rw [sequel, refused]

theorem blind_sequel (headers : Headers) (found : Option Challenge) :
    Blind (sequel dialer format (fallback.answer headers) (realmAuth.answer .empty) found) := by
  rw [sequel.eq_def]
  split
  · exact fallback.blind_answer headers
  · split
    · exact blind_fetch dialer format (realmAuth.blind_answer .empty) _
    · exact blind_throw _
    · exact fallback.blind_answer headers

theorem finish_bearer (headers : Headers) (network : Network) :
    finish ((bearer dialer format fallback realmAuth).answer headers) network =
      finish (sequel dialer format (fallback.answer headers) (realmAuth.answer .empty)
          (findBearer headers).2)
        (network.observe ((refusals headers).map .log)) := by
  have rejections_eq : rejections headers = (searchLog headers).map .log := by
    rw [rejections, searchLog, List.map_map]
    rfl
  cases search : (findBearer headers).2 with
  | none =>
      have reports : refusals headers = searchLog headers := by
        rw [refusals, search]
        exact List.append_nil _
      rw [finish_bearer_of_none dialer format fallback realmAuth network search, rejections_eq,
        reports]
      rfl
  | some challenge =>
      have reports : refusals headers = searchLog headers ++ challenge.refusal?.toList := by
        rw [refusals, search, Option.bind_some]
      rw [reports, List.map_append, ← rejections_eq]
      cases reached : challenge.target with
      | ok target =>
          have quiet : challenge.refusal? = none := by rw [refusal?, reached]
          rw [finish_bearer_of_target dialer format fallback realmAuth network search reached,
            quiet, sequel, reached]
          exact congrArg _ (congrArg _ (List.append_nil _).symm)
      | error error =>
          cases error with
          | unsplittable cause =>
              have quiet : challenge.refusal? = none := by rw [refusal?, reached]
              rw [finish_bearer_of_unsplittable dialer format fallback realmAuth network search
                reached, quiet, sequel, reached]
              exact congrArg _ (congrArg _ (List.append_nil _).symm)
          | noRealm _ | notAbsolute _ | port _ =>
              rw [finish_bearer_of_refused dialer format fallback realmAuth network search reached
                nofun, refusal?_of_refused reached nofun,
                sequel_of_refused dialer format _ _ reached nofun]
              rfl

/-- A Bearer authenticator first reports the refused challenges. -/
theorem logged_bearer (headers : Headers) (network : Network) :
    logged ((bearer dialer format fallback realmAuth).answer headers) network =
      refusals headers ++
        logged (sequel dialer format (fallback.answer headers) (realmAuth.answer .empty)
          (findBearer headers).2) network := by
  have blind := blind_sequel dialer format fallback realmAuth headers (findBearer headers).2
  rw [blind.logged_eq (finish_bearer dialer format fallback realmAuth headers network),
    filterMap_record_logs]

/-- The logs of what follows two reports are related if those of the fallbacks are. -/
theorem sequel_alike {found other_found : Option Challenge} (alike : FoundAlike found other_found)
    {fallback other_fallback : Run Headers} (realmAuth : Run Headers) {network : Network}
    {related : List LogRecord → List LogRecord → Prop} (same : ∀ records, related records records)
    (fallbacks : related (logged fallback network) (logged other_fallback network)) :
    related (logged (sequel dialer format fallback realmAuth found) network)
      (logged (sequel dialer format other_fallback realmAuth other_found) network) := by
  cases alike with
  | same found =>
      cases found with
      | none => exact fallbacks
      | some challenge =>
          rw [sequel, sequel]
          cases challenge.target with
          | ok target => exact same _
          | error error =>
              cases error with
              | unsplittable cause => exact same _
              | noRealm | notAbsolute | port => exact fallbacks
  | unusable alike =>
      cases alike with
      | refused refused other_refused alike =>
          obtain ⟨splittable, other_splittable⟩ := alike.splittable
          rw [sequel_of_refused dialer format _ _ refused splittable,
            sequel_of_refused dialer format _ _ other_refused other_splittable]
          exact fallbacks
      | unsplittable refused other_refused =>
          rw [sequel, sequel, refused, other_refused, logged_throw, logged_throw]
          exact same _

end Bearer

section TwoRuns

variable {headers other : Headers} (varied : Varied headers.items other.items)
include varied

theorem answer_logs_alike (authenticator : Authenticator) (network : Network) :
    List.Forall₂ LogRecord.Alike (logged (authenticator.answer headers) network)
      (logged (authenticator.answer other) network) := by
  induction authenticator with
  | anonymous | fixed | basic => exact LogRecord.alike_refl _
  | scripted number name =>
      rw [logged_scripted, logged_scripted]
      exact LogRecord.alike_refl _
  | bearer dialer format fallback realmAuth induction _ =>
      rw [logged_bearer, logged_bearer]
      -- The fallback is asked with the same headers, so nested ones report once more.
      refine List.rel_append (refusals_alike varied) ?_
      exact sequel_alike dialer format (findBearer_alike varied).2 _ LogRecord.alike_refl induction

theorem answer_logs_eq (same : refusals headers = refusals other) (authenticator : Authenticator)
    (network : Network) :
    logged (authenticator.answer headers) network =
      logged (authenticator.answer other) network := by
  induction authenticator with
  | anonymous | fixed | basic => rfl
  | scripted number name => rw [logged_scripted, logged_scripted]
  | bearer dialer format fallback realmAuth induction _ =>
      rw [logged_bearer, logged_bearer, same]
      congr 1
      exact sequel_alike dialer format (findBearer_alike varied).2 _ (fun _ => rfl) induction

end TwoRuns

/-- For headers that differ in Bearer challenges that are refused for the same reasons, a search for
a challenge logs records of the same kinds, and so does a Bearer authenticator, whose records have
the same levels.  The wording is the same exactly if the same is reported about the refused
challenges.  The authenticator logs the whole report before anything else, and each record in it
tells a part of the challenge that it is about. -/
theorem bearer_log_tells_refused (dialer : Dialer) (format : TokenFormat)
    (fallback realmAuth : Authenticator) {headers other : Headers}
    (varied : Varied headers.items other.items) (network : Network) :
    let log (fields : Headers) :=
      logged ((bearer dialer format fallback realmAuth).answer fields) network
    (List.Forall₂ LogRecord.Alike (searchLog headers) (searchLog other) ∧
      List.Forall₂ LogRecord.Alike (log headers) (log other) ∧
      (log headers).map LogRecord.level = (log other).map LogRecord.level) ∧
    ((searchLog headers).map LogRecord.message = (searchLog other).map LogRecord.message ↔
      searchLog headers = searchLog other) ∧
    ((log headers).map LogRecord.message = (log other).map LogRecord.message ↔
      refusals headers = refusals other) ∧
    (∃ later, log headers = refusals headers ++ later) ∧
    ∀ record ∈ refusals headers, ∃ field ∈ headers.items,
      AsksForBearer field ∧ Tells record field.2 := by
  intro log
  have search_alike := searchLog_alike varied
  have alike := answer_logs_alike varied (bearer dialer format fallback realmAuth) network
  have log_eq (fields : Headers) := logged_bearer dialer format fallback realmAuth fields network
  refine ⟨⟨search_alike, alike, LogRecord.levels_eq alike⟩,
    LogRecord.messages_eq_iff search_alike, ?wording, ⟨_, log_eq headers⟩,
    fun _ => exists_of_mem_refusals⟩
  case wording =>
    rw [LogRecord.messages_eq_iff alike]
    refine ⟨fun same => ?_, fun same => answer_logs_eq varied same _ network⟩
    -- The two reports have the same length, so they are told apart from what follows them.
    change logged _ _ = logged _ _ at same
    rw [log_eq headers, log_eq other] at same
    exact (List.append_inj same (refusals_alike varied).length_eq).1

/-- User information in a realm that is no service of the web is told. -/
theorem bearer_log_tells_user_information :
    let name := "WWW-Authenticate".toList
    let headers := Headers.single name "Bearer realm=\"ftp://ann:one@h/\"".toList
    let other := Headers.single name "Bearer realm=\"ftp://bob:two@h/\"".toList
    let log (fields : Headers) :=
      logged ((bearer .http (.json "access_token".toList 900) anonymous anonymous).answer fields) {}
    Varied headers.items other.items ∧
      (log headers).map LogRecord.message ≠ (log other).map LogRecord.message := by
  intro name headers other log
  have alike : RefusedAlike "Bearer realm=\"ftp://ann:one@h/\"".toList
      "Bearer realm=\"ftp://bob:two@h/\"".toList :=
    .unusable rfl rfl (.refused rfl rfl (.notAbsolute _ _))
  have varied : Varied headers.items other.items := .refused ⟨rfl, rfl⟩ ⟨rfl, rfl⟩ alike .nil
  obtain ⟨-, -, wording, -⟩ := bearer_log_tells_refused .http (.json "access_token".toList 900)
    anonymous anonymous varied {}
  have report : refusals headers =
      [.unusableChallenge (.notAbsolute "ftp://ann:one@h/".toList)] := rfl
  have other_report : refusals other =
      [.unusableChallenge (.notAbsolute "ftp://bob:two@h/".toList)] := rfl
  refine ⟨varied, fun same => ?_⟩
  have reports_eq := wording.mp same
  rw [report, other_report] at reports_eq
  revert reports_eq
  decide

/-- A challenge with a token in place of its parameters is refused, and the token is logged. -/
theorem refused_token_is_logged :
    let name := "WWW-Authenticate".toList
    let headers := Headers.single name "Bearer hunter2".toList
    let other := Headers.single name "Bearer secret".toList
    Varied headers.items other.items ∧
      (searchLog headers).map LogRecord.message ≠ (searchLog other).map LogRecord.message := by
  intro name headers other
  have alike : RefusedAlike "Bearer hunter2".toList "Bearer secret".toList :=
    .malformed rfl rfl (.noValue _ _)
  have varied : Varied headers.items other.items := .refused ⟨rfl, rfl⟩ ⟨rfl, rfl⟩ alike .nil
  have report : searchLog headers = [.malformedChallenge (.noValue "hunter2".toList)] := rfl
  have other_report : searchLog other = [.malformedChallenge (.noValue "secret".toList)] := rfl
  refine ⟨varied, ?_⟩
  rw [Ne, LogRecord.messages_eq_iff (searchLog_alike varied), report, other_report]
  decide

end Authenticator
end HttpAuth
