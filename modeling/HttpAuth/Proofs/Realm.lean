import HttpAuth.Proofs.Observation

/-!
# Challenges that name no token service

Which challenges a Bearer authenticator can use is a matter of the URI in their realm.  With a
usable one it exchanges the challenge for a token.  Without one it answers as its fallback does and
adds log records at most, except that a realm that cannot be split as a URI makes it fail.
-/

namespace HttpAuth
namespace Challenge

/-- The realm is an absolute URI of the web that has a host and no invalid port. -/
def Usable (challenge : Challenge) : Prop :=
  ∃ realm uri, challenge.realm? = some realm ∧ Uri.split realm = .ok uri ∧
    (uri.scheme = "http".toList ∨ uri.scheme = "https".toList) ∧
    uri.host ≠ [] ∧ uri.port ≠ .invalid

/-- The realm cannot be split as a URI. -/
def Unsplittable (challenge : Challenge) (error : Uri.Error) : Prop :=
  ∃ realm, challenge.realm? = some realm ∧ Uri.split realm = .error error

/-- A URI is refused for its scheme and host, or else for its port. -/
theorem targetOfUri_cases (challenge : Challenge) (realm : Text) (uri : Uri) :
    (¬((uri.scheme = "http".toList ∨ uri.scheme = "https".toList) ∧ uri.host ≠ []) ∧
      challenge.targetOfUri realm uri = .error (.notAbsolute realm)) ∨
    ((uri.scheme = "http".toList ∨ uri.scheme = "https".toList) ∧ uri.host ≠ [] ∧
      ((uri.port = .invalid ∧ challenge.targetOfUri realm uri = .error (.port realm)) ∨
        (uri.port ≠ .invalid ∧ ∃ target, challenge.targetOfUri realm uri = .ok target))) := by
  by_cases absolute : (uri.scheme = "http".toList ∨ uri.scheme = "https".toList) ∧ uri.host ≠ []
  · obtain ⟨web, named⟩ := absolute
    have accepted : ((!(uri.scheme == "https".toList) && uri.scheme != "http".toList) ||
        uri.host.isEmpty) = false := by
      rcases web with http | https
      · simp [http, named]
      · simp [https, named]
    refine .inr ⟨web, named, ?_⟩
    simp only [targetOfUri, accepted, Bool.false_eq_true, if_false]
    cases uri.port with
    | invalid => exact .inl ⟨rfl, rfl⟩
    | absent => exact .inr ⟨nofun, _, rfl⟩
    | number value => exact .inr ⟨nofun, _, rfl⟩
  · have refused : ((!(uri.scheme == "https".toList) && uri.scheme != "http".toList) ||
        uri.host.isEmpty) = true := by
      rw [Bool.or_eq_true, Bool.and_eq_true, Bool.not_eq_true', beq_eq_false_iff_ne, bne_iff_ne,
        List.isEmpty_iff]
      by_cases named : uri.host = []
      · exact .inr named
      · refine .inl ⟨fun https => absolute ⟨.inr https, named⟩, fun http => ?_⟩
        exact absolute ⟨.inl http, named⟩
    refine .inl ⟨absolute, ?_⟩
    simp only [targetOfUri, refused, if_true]

/-- With a realm that can be split, the target is a matter of its URI. -/
theorem target_eq_targetOfUri {challenge : Challenge} {realm : Text} {uri : Uri}
    (filled : realm ≠ []) (given : challenge.realm? = some realm)
    (split : Uri.split realm = .ok uri) : challenge.target = challenge.targetOfUri realm uri := by
  cases realm with
  | nil => exact absurd rfl filled
  | cons first others => simp [target, given, split]

theorem Unsplittable.not_usable {challenge : Challenge} {error : Uri.Error}
    (unsplittable : challenge.Unsplittable error) : ¬challenge.Usable := by
  obtain ⟨realm, given, failed⟩ := unsplittable
  rintro ⟨other, uri, other_given, split, -⟩
  rw [given] at other_given
  cases other_given
  rw [failed] at split
  cases split

/-- A challenge is usable and has a target, or its realm cannot be split, or it is refused for
another reason. -/
theorem target_cases (challenge : Challenge) :
    (challenge.Usable ∧ ∃ target, challenge.target = .ok target) ∨
    (∃ error, challenge.Unsplittable error ∧
      challenge.target = .error (.unsplittable error)) ∨
    (¬challenge.Usable ∧ (∀ error, ¬challenge.Unsplittable error) ∧
      ∃ refusal, challenge.target = .error refusal ∧ ∀ error, refusal ≠ .unsplittable error) := by
  cases given : challenge.realm? with
  | none =>
      have refused : challenge.target = .error (.noRealm challenge.scheme) := by
        simp [target, given]
      exact .inr (.inr ⟨by simp [Usable, given], by simp [Unsplittable, given], _, refused, nofun⟩)
  | some realm =>
      cases realm with
      | nil =>
          have parts : Uri.split [] = .ok ⟨[], [], [], []⟩ := rfl
          have unusable : ¬challenge.Usable := by simp [Usable, given, parts]
          have splittable : ∀ error, ¬challenge.Unsplittable error := by
            simp [Unsplittable, given, parts]
          have refused : challenge.target = .error (.noRealm challenge.scheme) := by
            simp [target, given]
          exact .inr (.inr ⟨unusable, splittable, _, refused, nofun⟩)
      | cons first others =>
          cases split : Uri.split (first :: others) with
          | error error =>
              exact .inr (.inl ⟨error, ⟨_, given, split⟩, by simp [target, given, split]⟩)
          | ok uri =>
              have target_eq := target_eq_targetOfUri (List.cons_ne_nil first others) given split
              have splittable : ∀ error, ¬challenge.Unsplittable error := by
                simp [Unsplittable, given, split]
              have usable_iff : challenge.Usable ↔
                  (uri.scheme = "http".toList ∨ uri.scheme = "https".toList) ∧
                    uri.host ≠ [] ∧ uri.port ≠ .invalid := by
                simp [Usable, given, split]
              rw [target_eq, usable_iff]
              rcases challenge.targetOfUri_cases (first :: others) uri with
                ⟨relative, refused⟩ | ⟨web, named, ⟨invalid, refused⟩ | ⟨valid, accepted⟩⟩
              · refine .inr (.inr ⟨?_, splittable, _, refused, nofun⟩)
                exact fun ⟨web, named, _⟩ => relative ⟨web, named⟩
              · refine .inr (.inr ⟨?_, splittable, _, refused, nofun⟩)
                exact fun ⟨_, _, valid⟩ => valid invalid
              · exact .inl ⟨⟨web, named, valid⟩, accepted⟩

/-- A challenge has a target exactly when it is usable. -/
theorem target_isOk_iff (challenge : Challenge) :
    (∃ target, challenge.target = .ok target) ↔ challenge.Usable := by
  rcases challenge.target_cases with ⟨usable, accepted⟩ | ⟨error, unsplittable, refused⟩ |
    ⟨unusable, -, refusal, refused, -⟩
  · exact ⟨fun _ => usable, fun _ => accepted⟩
  · simp [refused, unsplittable.not_usable]
  · simp [refused, unusable]

/-- The target of a challenge fails for want of a URI exactly when its realm cannot be split. -/
theorem target_eq_unsplittable_iff (challenge : Challenge) (error : Uri.Error) :
    challenge.target = .error (.unsplittable error) ↔ challenge.Unsplittable error := by
  constructor
  · intro failed
    rcases challenge.target_cases with ⟨-, target, accepted⟩ | ⟨found, unsplittable, refused⟩ |
      ⟨-, -, refusal, refused, other⟩
    · rw [accepted] at failed
      cases failed
    · rw [refused] at failed
      cases failed
      exact unsplittable
    · rw [refused] at failed
      cases failed
      exact absurd rfl (other error)
  · rintro ⟨realm, given, split⟩
    cases realm with
    | nil => exact absurd split nofun
    | cons first others => simp [target, given, split]

end Challenge

namespace Authenticator

open Run

/-- One run is another one with log records in front of it. -/
def LogsThen {α : Type} (action other : Run α) (network : Network) : Prop :=
  ∃ logs : List Event, (∀ event ∈ logs, ∃ record, event = .log record) ∧
    finish action network =
      ({ final other network with trace := network.trace ++ logs ++ observed other network },
        result other network)

theorem finish_logs {α : Type} (items : List α) (record : α → LogRecord) (network : Network) :
    finish (items.forM fun item => Run.log (record item)) network =
      (network.observe (items.map fun item => .log (record item)), .ok ()) := by
  induction items generalizing network with
  | nil => simp
  | cons item others induction =>
      change finish (Run.log (record item) >>= fun _ => others.forM _) network = _
      rw [finish_bind, finish_log]
      simp only
      rw [induction, ← Network.observe_append]
      rfl

theorem logsThen_of_blind {α : Type} {action other : Run α} {network : Network}
    (blind : Blind other) {logs : List Event}
    (records : ∀ event ∈ logs, ∃ record, event = .log record)
    (finish_eq : finish action network = finish other (network.observe logs)) :
    LogsThen action other network :=
  ⟨logs, records, by rw [finish_eq, blind.finish_observe]⟩

/-- The log records of the Bearer challenges that cannot be read. -/
def rejections (headers : Headers) : List Event :=
  (Challenge.findBearer headers).1.map fun error => .log (.malformedChallenge error)

theorem rejections_are_logs (headers : Headers) :
    ∀ event ∈ rejections headers, ∃ record, event = .log record := by
  intro event member
  obtain ⟨error, -, rfl⟩ := List.mem_map.mp member
  exact ⟨_, rfl⟩

section Bearer

variable (dialer : Dialer) (format : TokenFormat) (fallback realmAuth : Authenticator)
variable {headers : Headers} (network : Network)

theorem finish_bearer_of_none (search : (Challenge.findBearer headers).2 = none) :
    finish ((bearer dialer format fallback realmAuth).answer headers) network =
      finish (fallback.answer headers) (network.observe (rejections headers)) := by
  simp only [Authenticator.answer, finish_bind, finish_logs, search]
  rfl

variable {challenge : Challenge} (search : (Challenge.findBearer headers).2 = some challenge)
include search

theorem finish_bearer_of_target {target : RealmTarget} (accepted : challenge.target = .ok target) :
    finish ((bearer dialer format fallback realmAuth).answer headers) network =
      finish (fetch dialer format (realmAuth.answer .empty) target)
        (network.observe (rejections headers)) := by
  simp only [Authenticator.answer, finish_bind, finish_logs, search, accepted]
  rfl

theorem finish_bearer_of_unsplittable {error : Uri.Error}
    (refused : challenge.target = .error (.unsplittable error)) :
    finish ((bearer dialer format fallback realmAuth).answer headers) network =
      finish (throw (.realmUri error)) (network.observe (rejections headers)) := by
  simp only [Authenticator.answer, finish_bind, finish_logs, search, refused]
  rfl

theorem finish_bearer_of_refused {refusal : Challenge.TargetError}
    (refused : challenge.target = .error refusal) (other : ∀ error, refusal ≠ .unsplittable error) :
    finish ((bearer dialer format fallback realmAuth).answer headers) network =
      finish (fallback.answer headers)
        (network.observe (rejections headers ++ [.log (.unusableChallenge refusal)])) := by
  rw [Network.observe_append]
  cases refusal with
  | unsplittable error => exact absurd rfl (other error)
  -- The other refusals share one branch, which the match finds only for a known constructor.
  | noRealm _ | notAbsolute _ | port _ =>
      simp only [Authenticator.answer, finish_bind, finish_logs, search, refused, finish_log]
      rfl

end Bearer

/-- A Bearer authenticator exchanges a usable challenge for a token and answers any other headers as
its fallback does, after log records at most.  Only a realm that cannot be split as a URI makes it
fail, before it does anything else. -/
theorem bearer_answer_cases (dialer : Dialer) (format : TokenFormat)
    (fallback realmAuth : Authenticator) (headers : Headers) (network : Network) :
    let answer := (bearer dialer format fallback realmAuth).answer headers
    let found := (Challenge.findBearer headers).2
    ((∃ challenge target, found = some challenge ∧ challenge.Usable ∧
        challenge.target = .ok target ∧
        LogsThen answer (fetch dialer format (realmAuth.answer .empty) target) network) ∨
      (∃ challenge error, found = some challenge ∧ challenge.Unsplittable error ∧
        LogsThen answer (throw (.realmUri error)) network) ∨
      ((∀ challenge, found = some challenge →
          ¬challenge.Usable ∧ ∀ error, ¬challenge.Unsplittable error) ∧
        LogsThen answer (fallback.answer headers) network)) ∧
      ∀ challenge : Challenge, ((∃ target, challenge.target = .ok target) ↔ challenge.Usable) ∧
        ∀ error, challenge.target = .error (.unsplittable error) ↔
          challenge.Unsplittable error := by
  intro answer found
  refine ⟨?_, fun challenge => ⟨challenge.target_isOk_iff, challenge.target_eq_unsplittable_iff⟩⟩
  have records := rejections_are_logs headers
  have fallback_blind := fallback.blind_answer headers
  cases search : found with
  | none =>
      have answered := finish_bearer_of_none dialer format fallback realmAuth network search
      exact .inr (.inr ⟨nofun, logsThen_of_blind fallback_blind records answered⟩)
  | some challenge =>
      rcases challenge.target_cases with ⟨usable, target, accepted⟩ |
        ⟨error, unsplittable, refused⟩ | ⟨unusable, splittable, refusal, refused, other⟩
      · have blind := blind_fetch dialer format (realmAuth.blind_answer .empty) target
        have answered :=
          finish_bearer_of_target dialer format fallback realmAuth network search accepted
        exact .inl ⟨challenge, target, rfl, usable, accepted,
          logsThen_of_blind blind records answered⟩
      · have answered :=
          finish_bearer_of_unsplittable dialer format fallback realmAuth network search refused
        exact .inr (.inl ⟨challenge, error, rfl, unsplittable,
          logsThen_of_blind (blind_throw _) records answered⟩)
      · have answered :=
          finish_bearer_of_refused dialer format fallback realmAuth network search refused other
        refine .inr (.inr ⟨?_, logsThen_of_blind fallback_blind ?_ answered⟩)
        · rintro _ ⟨⟩
          exact ⟨unusable, splittable⟩
        · simpa [or_imp, forall_and] using records

/-- An open bracket in the realm makes the authenticator fail where its fallback has an answer. -/
theorem bearer_fails_on_open_bracket :
    let headers : Headers :=
      .single "WWW-Authenticate".toList "Bearer realm=\"http://[::1\"".toList
    result ((bearer .http (.json "access_token".toList 900) anonymous anonymous).answer headers)
        {} = .error (.realmUri .brackets) ∧
      result (anonymous.answer headers) {} = .ok .empty :=
  ⟨rfl, rfl⟩

end Authenticator
end HttpAuth
