import HttpAuth.Proofs.Exchange
import HttpAuth.Proofs.SideBySide

/-!
# Requests with different secrets

Two requests with credentials whose authenticators differ in their secrets, side by side.  Headers
that no exchange comes of are answered alike.  Two requests with credentials are confused when their
stages are: the answers of the authenticators, the first calls, and the calls after a challenge.
-/

namespace HttpAuth

open Run

theorem Headers.size_eq_of_names {headers other : Headers}
    (names : headers.items.map Prod.fst = other.items.map Prod.fst) :
    headers.size = other.size := by
  simpa [Headers.size] using congrArg List.length names

theorem Headers.isEmpty_eq_of_size {headers other : Headers} (sizes : headers.size = other.size) :
    headers.isEmpty = other.isEmpty := by
  rw [Headers.size, Headers.size] at sizes
  rw [Bool.eq_iff_iff, Headers.isEmpty, Headers.isEmpty, List.isEmpty_iff_length_eq_zero,
    List.isEmpty_iff_length_eq_zero, sizes]

namespace Dialer

/-- The party that answers where a dialer leads to. -/
def peer : Dialer → Peer
  | .recorded => .realm
  | .http => .client

/-- The content that is made of the body of a reply where a dialer leads to. -/
def content : Dialer → Owner → Body → Option Hook → Content
  | .recorded => Body.contentOver
  | .http => fun owner body _ => body.received owner

theorem endpoint_peer (dialer : Dialer) (target : RealmTarget) :
    (dialer.endpoint target).peer = dialer.peer := by
  cases dialer <;> rfl

theorem endpoint_content (dialer : Dialer) (target : RealmTarget) :
    (dialer.endpoint target).content = dialer.content := by
  cases dialer <;> rfl

end Dialer

namespace Authenticator

/-- It has credentials of its own or none. -/
def Plain : Authenticator → Prop
  | .anonymous | .fixed _ | .basic .. => True
  | .scripted .. | .bearer .. => False

/-- Two authenticators differ in user names, passwords and the values of headers alone. -/
inductive SameButSecrets : Authenticator → Authenticator → Prop where
  /-- There are no secrets. -/
  | anonymous : SameButSecrets .anonymous .anonymous
  /-- The headers have the same names. -/
  | fixed {headers other : Headers}
      (names : headers.items.map Prod.fst = other.items.map Prod.fst) :
      SameButSecrets (.fixed headers) (.fixed other)
  /-- There are a user name and a password. -/
  | basic {username password other_username other_password : Text} :
      SameButSecrets (.basic username password) (.basic other_username other_password)
  /-- The parts differ in secrets alone. -/
  | bearer {dialer : Dialer} {format : TokenFormat}
      {fallback realmAuth other_fallback other_realmAuth : Authenticator}
      (fallbacks : SameButSecrets fallback other_fallback)
      (realmAuths : SameButSecrets realmAuth other_realmAuth) :
      SameButSecrets (.bearer dialer format fallback realmAuth)
        (.bearer dialer format other_fallback other_realmAuth)

theorem SameButSecrets.refl_of_plain {authenticator : Authenticator}
    (plain : authenticator.Plain) : SameButSecrets authenticator authenticator := by
  cases authenticator with
  | anonymous => exact .anonymous
  | fixed headers => exact .fixed rfl
  | basic username password => exact .basic
  | scripted | bearer => exact plain.elim

theorem Plain.answer_eq {authenticator : Authenticator} (plain : authenticator.Plain) :
    ∃ given, ∀ headers, authenticator.answer headers = pure given := by
  cases authenticator with
  | anonymous | fixed | basic => exact ⟨_, fun _ => rfl⟩
  | scripted | bearer => exact plain.elim

/-- No challenge comes from no headers. -/
theorem handsOn_empty : HandsOn .empty := by
  intro challenge found
  cases found

section Confused

variable {observer : Observer} {before other_before : Network}
variable {dialer : Dialer} {format : TokenFormat}
variable {fallback realmAuth other_fallback other_realmAuth : Authenticator}

/-- Two exchanges for a token are confused when their replies are; the requests are not seen and may
differ in their credentials. -/
theorem confuses_fetch {post : Headers → Headers → Network → Network → Prop}
    {met : Response → Response → Network → Network → Prop} {asked other_asked : Run Headers}
    (target : RealmTarget)
    (asking : ∀ between other_between,
      observer.Confuses (fun _ _ => Network.Ahead between other_between) asked other_asked between
        other_between)
    (unseen : ∀ event : Event, event.isRequestTo dialer.peer → observer.sees event = false)
    (lasting : Endpoint.Lasting met)
    (receiving : ∀ between other_between,
      Network.Ahead before other_before between other_between →
      observer.Confuses met (receive dialer.peer dialer.content)
        (receive dialer.peer dialer.content) between other_between)
    (reading : ∀ response other_response between other_between,
      met response other_response between other_between →
      observer.Confuses post (readToken format target response)
        (readToken format target other_response) between other_between) :
    observer.Confuses post (fetch dialer format asked target)
      (fetch dialer format other_asked target) before other_before := by
  refine .of_later rfl rfl rfl (finish_fetch dialer format asked target before)
    (finish_fetch dialer format other_asked target other_before) ?_
  refine .bind (asking _ _) ?_
  intro credentials other_credentials _ _ answering
  have nothing_sent : Body.ReadsLike .none .none := rfl
  refine .bind (Endpoint.confuses_respond _ _ _ _ ?_ nothing_sent lasting ?_) reading
  · rwa [dialer.endpoint_peer]
  · intro between other_between ahead
    rw [dialer.endpoint_peer, dialer.endpoint_content]
    exact receiving _ _ (.trans ⟨_, _, rfl, rfl⟩ (answering.trans ahead))

/-- Two Bearer authenticators are confused when their exchanges and their fallbacks are. -/
theorem confuses_bearer {post : Headers → Headers → Network → Network → Prop} {headers : Headers}
    (fetching : ∀ challenge target between other_between,
      (Challenge.findBearer headers).2 = some challenge → challenge.target = .ok target →
      Network.Ahead before other_before between other_between →
      observer.Confuses post (fetch dialer format (realmAuth.answer .empty) target)
        (fetch dialer format (other_realmAuth.answer .empty) target) between other_between)
    (handing : HandsOn headers → ∀ between other_between,
      Network.Ahead before other_before between other_between →
      observer.Confuses post (fallback.answer headers) (other_fallback.answer headers) between
        other_between) :
    observer.Confuses post ((bearer dialer format fallback realmAuth).answer headers)
      ((bearer dialer format other_fallback other_realmAuth).answer headers) before
      other_before := by
  rcases handsOn_cases headers with ⟨challenge, target, search, accepted⟩ |
    ⟨challenge, error, search, refused⟩ | handed
  · exact .of_later rfl rfl rfl
      (finish_bearer_of_target dialer format fallback realmAuth before search accepted)
      (finish_bearer_of_target dialer format other_fallback other_realmAuth other_before search
        accepted)
      (fetching challenge target _ _ search accepted ⟨_, _, rfl, rfl⟩)
  · exact .of_later rfl rfl rfl
      (finish_bearer_of_unsplittable dialer format fallback realmAuth before search refused)
      (finish_bearer_of_unsplittable dialer format other_fallback other_realmAuth other_before
        search refused)
      (.throw (.realmUri error))
  · obtain ⟨logs, -, finished⟩ := finish_bearer_of_handsOn handed
    exact .of_later rfl rfl rfl (finished dialer format fallback realmAuth before)
      (finished dialer format other_fallback other_realmAuth other_before)
      (handing handed _ _ ⟨logs, logs, rfl, rfl⟩)

/-- Authenticators that differ in secrets answer headers that they hand on with as many headers. -/
theorem confuses_answer_of_handsOn {headers : Headers} (handed : HandsOn headers)
    {authenticator other : Authenticator} (same : SameButSecrets authenticator other) :
    observer.Confuses
      (fun given other_given after other_after => given.size = other_given.size ∧
        Network.Ahead before other_before after other_after)
      (authenticator.answer headers) (other.answer headers) before other_before := by
  induction same generalizing before other_before with
  | anonymous => exact .pure ⟨rfl, .refl⟩
  | fixed names => exact .pure ⟨Headers.size_eq_of_names names, .refl⟩
  | basic => exact .pure ⟨rfl, .refl⟩
  | bearer _ _ fallbacks_confused _ =>
      apply confuses_bearer
      case fetching =>
        -- Headers that are handed on have no usable challenge.
        intro challenge target _ _ search accepted
        obtain ⟨refusal, refused, -⟩ := handed challenge search
        rw [accepted] at refused
        cases refused
      case handing =>
        intro _ between other_between ahead
        refine fallbacks_confused.mono ?_
        rintro _ _ _ _ ⟨sizes, later⟩
        exact ⟨sizes, ahead.trans later⟩

end Confused
end Authenticator

namespace Service

/-- What two requests with credentials have in common, stage by stage. -/
structure Stages where
  /-- The networks up to the first response. -/
  start : Network → Network → Prop
  /-- The answers of the authenticators. -/
  given : Headers → Headers → Prop
  /-- The first responses and the networks after them. -/
  met : Response → Response → Network → Network → Prop
  /-- The networks after the answers to a challenge. -/
  later : Network → Network → Prop
  /-- The responses in the end. -/
  ended : Response → Response → Prop
  /-- What is observed up to the first response has no influence. -/
  start_ahead : ∀ {before other_before after other_after}, start before other_before →
    Network.Ahead before other_before after other_after → start after other_after
  /-- The answers have the same size. -/
  size_eq : ∀ {first other}, given first other → first.size = other.size
  /-- The first responses have the same status. -/
  lasting : Endpoint.Lasting met
  /-- The first responses are released with the same result. -/
  closes : ∀ {response other after other_after}, met response other after other_after →
    response.body.close.result = other.body.close.result
  /-- What is observed after the answers to a challenge has no influence. -/
  later_ahead : ∀ {before other_before after other_after}, later before other_before →
    Network.Ahead before other_before after other_after → later after other_after
  /-- The first responses may be the last. -/
  ended_of_met : ∀ {response other after other_after}, met response other after other_after →
    ended response other

section Authenticate

variable {observer : Observer} {send other_send : Headers → Body → Run Response}
variable {authenticator other : Authenticator} {headers other_headers : Headers}
variable {body other_body : Body} {before other_before : Network}

theorem confuses_challengeAnswer {post : Headers → Headers → Network → Network → Prop}
    {response other_response : Response}
    (closes : response.body.close.result = other_response.body.close.result)
    (answering : observer.Confuses post (authenticator.answer response.headers)
      (other.answer other_response.headers) before other_before) :
    observer.Confuses post (challengeAnswer authenticator response)
      (challengeAnswer other other_response) before other_before := by
  refine .tryCatch answering fun failure _ _ => ?_
  exact .bind (.release closes) fun _ _ _ _ _ => .throw failure

/-- Requests with credentials are confused when their stages are. -/
theorem confuses_authenticate (stages : Stages) (line : Option Text)
    (bodies : body.ReadsLike other_body)
    (asking : ∀ between other_between, stages.start between other_between →
      observer.Confuses
        (fun first second after other_after =>
          stages.given first second ∧ stages.start after other_after)
        (authenticator.answer .empty) (other.answer .empty) between other_between)
    (sending : ∀ data other_data first second between other_between,
      (body.toContent .caller).read.result = .ok data →
      (other_body.toContent .caller).read.result = .ok other_data →
      stages.given first second → stages.start between other_between →
      observer.Confuses stages.met (send (headers ++ first) (.bytes data))
        (other_send (other_headers ++ second) (.bytes other_data)) between other_between)
    (answering : ∀ response other_response between other_between,
      stages.met response other_response between other_between →
      response.status = unauthorized →
      observer.Confuses
        (fun first second after other_after =>
          stages.given first second ∧ stages.later after other_after)
        (authenticator.answer response.headers) (other.answer other_response.headers) between
        other_between)
    (resending : ∀ data other_data first second between other_between,
      (body.toContent .caller).read.result = .ok data →
      (other_body.toContent .caller).read.result = .ok other_data →
      stages.given first second → stages.later between other_between →
      observer.Confuses (fun response other_response _ _ => stages.ended response other_response)
        (send (headers ++ first) (.bytes data))
        (other_send (other_headers ++ second) (.bytes other_data)) between other_between)
    (started : stages.start before other_before) :
    observer.Confuses (fun response other_response _ _ => stages.ended response other_response)
      (authenticate send authenticator line headers body)
      (authenticate other_send other line other_headers other_body) before other_before := by
  refine .bind (.readBody bodies) ?_
  rintro data other_data _ _ ⟨⟨read, other_read⟩, reading⟩
  refine .bind (asking _ _ (stages.start_ahead started reading)) ?_
  rintro first second _ _ ⟨given, asked⟩
  rw [stages.size_eq given]
  refine .bind (.log _) ?_
  intro _ _ _ _ logging
  have ready := stages.start_ahead asked logging
  refine .bind (sending _ _ _ _ _ _ read other_read given ready) ?_
  intro response other_response between other_between met
  by_cases challenged : response.status = unauthorized
  · have other_challenged := (stages.lasting.status_eq met).symm.trans challenged
    rw [if_neg (not_not_intro challenged), if_neg (not_not_intro other_challenged)]
    refine .bind (confuses_challengeAnswer (stages.closes met)
      (answering _ _ _ _ met challenged)) ?_
    rintro first second _ _ ⟨given, answered⟩
    rw [Headers.isEmpty_eq_of_size (stages.size_eq given)]
    cases second.isEmpty with
    | true => exact .bind (.log _) fun _ _ _ _ _ => .pure (stages.ended_of_met met)
    | false =>
        refine .bind (.log _) ?_
        intro _ _ _ _ logging
        refine .bind (.release (stages.closes met)) ?_
        intro _ _ _ _ releasing
        exact resending _ _ _ _ _ _ read other_read given
          (stages.later_ahead answered (logging.trans releasing))
  · have other_accepted : other_response.status ≠ unauthorized := by
      rwa [← stages.lasting.status_eq met]
    rw [if_pos challenged, if_pos other_accepted]
    exact .pure (stages.ended_of_met met)

end Authenticate

end Service
end HttpAuth
