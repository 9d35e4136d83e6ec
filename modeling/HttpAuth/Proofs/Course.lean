import HttpAuth.Proofs.Run
import HttpAuth.Service

/-!
# The course of a request with credentials

What a request with credentials can do, stage by stage: the body is read, the authenticator is asked
with no headers and the request is sent; after a challenge the authenticator is asked again, the
challenge is released and the request is sent once more.  Every run takes one of these courses, so
that a property of requests with credentials is shown for each course in turn.
-/

namespace HttpAuth
namespace Service

open Run

variable (send : Headers → Body → Run Response) (authenticator : Authenticator)
variable (line : Option Text) (headers : Headers)

/-- The way to a first response: the network at its end, and the body that was read together with
the response. -/
inductive Opening (body : Body) (before : Network) :
    Network → Except Failure (Octets × Response) → Prop where
  /-- The body cannot be read. -/
  | unread {after failure}
      (reading : finish (readBody .caller body) before = (after, .error failure)) :
      Opening body before after (.error failure)
  /-- The authenticator fails. -/
  | unasked {read after data failure}
      (reading : finish (readBody .caller body) before = (read, .ok data))
      (asking : finish (authenticator.answer .empty) read = (after, .error failure)) :
      Opening body before after (.error failure)
  /-- The request fails. -/
  | unsent {read asked after data first failure}
      (reading : finish (readBody .caller body) before = (read, .ok data))
      (asking : finish (authenticator.answer .empty) read = (asked, .ok first))
      (sending : finish (send (headers ++ first) (.bytes data))
        (asked.observe [.log (.sending line first.size)]) = (after, .error failure)) :
      Opening body before after (.error failure)
  /-- There is a response. -/
  | answered {read asked after data first response}
      (reading : finish (readBody .caller body) before = (read, .ok data))
      (asking : finish (authenticator.answer .empty) read = (asked, .ok first))
      (sending : finish (send (headers ++ first) (.bytes data))
        (asked.observe [.log (.sending line first.size)]) = (after, .ok response)) :
      Opening body before after (.ok (data, response))

/-- The way on from a challenge: the network at its end, and the result. -/
inductive Meeting (data : Octets) (challenge : Response) (before : Network) :
    Network → Except Failure Response → Prop where
  /-- The authenticator fails, and the challenge is released.  A failure of the release replaces
  the one of the authenticator. -/
  | unmet {asked after reason released failure}
      (asking : finish (authenticator.answer challenge.headers) before = (asked, .error reason))
      (releasing : finish (release challenge) asked = (after, released))
      (cause : released = .ok () ∧ failure = reason ∨ released = .error failure) :
      Meeting data challenge before after (.error failure)
  /-- The authenticator has nothing to offer, and the challenge is handed on. -/
  | declined {asked second}
      (asking : finish (authenticator.answer challenge.headers) before = (asked, .ok second))
      (nothing : second.isEmpty = true) :
      Meeting data challenge before (asked.observe [.log (.noCredentials line)]) (.ok challenge)
  /-- The challenge cannot be released. -/
  | unreleased {asked after second failure}
      (asking : finish (authenticator.answer challenge.headers) before = (asked, .ok second))
      (something : second.isEmpty = false)
      (releasing : finish (release challenge) (asked.observe [.log (.retrying line)]) =
        (after, .error failure)) :
      Meeting data challenge before after (.error failure)
  /-- The request is sent once more. -/
  | retried {asked released after second result}
      (asking : finish (authenticator.answer challenge.headers) before = (asked, .ok second))
      (something : second.isEmpty = false)
      (releasing : finish (release challenge) (asked.observe [.log (.retrying line)]) =
        (released, .ok ()))
      (sending : finish (send (headers ++ second) (.bytes data)) released = (after, result)) :
      Meeting data challenge before after result

/-- The course of a request with credentials: the network at its end, and the result. -/
inductive Course (body : Body) (before : Network) : Network → Except Failure Response → Prop where
  /-- There is no first response. -/
  | failed {after failure}
      (opening : Opening send authenticator line headers body before after (.error failure)) :
      Course body before after (.error failure)
  /-- The first response is no challenge. -/
  | accepted {after data response}
      (opening : Opening send authenticator line headers body before after (.ok (data, response)))
      (accepted : response.status ≠ unauthorized) :
      Course body before after (.ok response)
  /-- The first response is a challenge. -/
  | challenged {middle after data response result}
      (opening : Opening send authenticator line headers body before middle (.ok (data, response)))
      (unauthorized : response.status = unauthorized)
      (meeting : Meeting send authenticator line headers data response middle after result) :
      Course body before after result

/-- The way on from a challenge ends as the retry of the request does. -/
theorem meeting_of_challenge (data : Octets) (challenge : Response) (before : Network) :
    let retry : Run Response := do
      let second ← challengeAnswer authenticator challenge
      if second.isEmpty then
        Run.log (.noCredentials line)
        return challenge
      Run.log (.retrying line)
      Run.release challenge
      send (headers ++ second) (.bytes data)
    Meeting send authenticator line headers data challenge before (final retry before)
      (result retry before) := by
  intro retry
  rw [final_eq, result_eq]
  rcases asking : finish (authenticator.answer challenge.headers) before with ⟨asked, _ | second⟩
  · rename_i reason
    rcases releasing : finish (release challenge) asked with ⟨after, _ | released⟩
    · simpa [retry, challengeAnswer, asking, releasing] using .unmet asking releasing (.inr rfl)
    · simpa [retry, challengeAnswer, asking, releasing] using
        .unmet asking releasing (.inl ⟨rfl, rfl⟩)
  · cases empty : second.isEmpty with
    | true =>
        simpa [retry, challengeAnswer, asking, empty] using .declined asking empty
    | false =>
        rcases releasing : finish (release challenge) (asked.observe [.log (.retrying line)]) with
          ⟨released, _ | done⟩
        · simpa [retry, challengeAnswer, asking, empty, releasing] using
            .unreleased asking empty releasing
        · simpa [retry, challengeAnswer, asking, empty, releasing] using
            .retried asking empty releasing rfl

/-- Every request with credentials takes one of the courses. -/
theorem course_of_authenticate (body : Body) (before : Network) :
    let call := authenticate send authenticator line headers body
    Course send authenticator line headers body before (final call before)
      (result call before) := by
  intro call
  rw [final_eq, result_eq]
  rcases reading : finish (readBody .caller body) before with ⟨read, _ | data⟩
  · simpa only [call, authenticate, finish_bind, reading] using .failed (.unread reading)
  rcases asking : finish (authenticator.answer .empty) read with ⟨asked, _ | first⟩
  · simpa only [call, authenticate, finish_bind, reading, asking] using
      .failed (.unasked reading asking)
  rcases sending : finish (send (headers ++ first) (.bytes data))
    (asked.observe [.log (.sending line first.size)]) with ⟨after, _ | response⟩
  · simpa only [call, authenticate, finish_bind, finish_log, reading, asking, sending] using
      .failed (.unsent reading asking sending)
  have opening := Opening.answered reading asking sending
  by_cases challenged : response.status = unauthorized
  · have meeting := meeting_of_challenge send authenticator line headers data response after
    simp only [final_eq, result_eq, finish_bind] at meeting
    simpa only [call, authenticate, finish_bind, finish_log, reading, asking, sending, challenged,
      ne_eq, not_true_eq_false, if_false] using .challenged opening challenged meeting
  · simpa only [call, authenticate, finish_bind, finish_log, reading, asking, sending, ne_eq,
      challenged, not_false_eq_true, if_true] using .accepted opening challenged

end Service
end HttpAuth
