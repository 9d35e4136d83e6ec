import HttpAuth.Proofs.Transcript

/-!
# Which failures reach the caller

A failure of the authenticator or of the origin is the result of a request with credentials, with
one exception.  When the authenticator fails on a challenge, the challenge is released first, and a
failure of the release takes the place of the one that it cleans up after.
-/

namespace HttpAuth
namespace Service

open Run

/-- What a caller gets to see of the failures of a request whose body is read. -/
structure PassesFailures (name : Text) (answers : List Verdict) (replies : List Reply)
    (number : Nat) (observed : List Event) (result : Except Failure Response) : Prop where
  /-- A failure of the authenticator before the first request is the result. -/
  first_answer : ∀ failure, answerOf name answers[0]? = .error failure → result = .error failure
  /-- A failure of the first request is the result. -/
  first_reply : ∀ first failure, answerOf name answers[0]? = .ok first →
    responseOf number replies[0]? = .error failure → result = .error failure
  /-- When the authenticator fails on a challenge, the challenge is released last of all.  The
  failure is the result, unless the release fails too. -/
  second_answer : ∀ first received content hook failure,
    answerOf name answers[0]? = .ok first →
    replies[0]? = some (.response unauthorized received content hook) →
    answerOf name answers[1]? = .error failure →
    (∃ earlier, observed = earlier ++ .authenticate name received :: releaseOf number hook) ∧
      result =
        .error (if hook = some .failing then .closing (.reply .origin number) else failure)
  /-- Once a challenge is released, a failure of the second request is the result. -/
  second_reply : ∀ first second received content hook failure,
    answerOf name answers[0]? = .ok first →
    replies[0]? = some (.response unauthorized received content hook) →
    answerOf name answers[1]? = .ok second → second.isEmpty = false → hook ≠ some .failing →
    responseOf (number + 1) replies[1]? = .error failure → result = .error failure

section Passes

variable {name : Text} {line : Option Text} {headers : Headers} {data : Octets}
variable {answers : List Verdict} {replies : List Reply} {number : Nat}
variable {reading events : List Event} {result : Except Failure Response}

theorem result_of_first_answer {failure : Failure}
    (transcript : Transcript name line headers data answers replies number events result)
    (failed : answerOf name answers[0]? = .error failure) : result = .error failure := by
  cases transcript with
  | unasked first_answer =>
      rw [failed] at first_answer
      rw [Except.error.inj first_answer]
  | unsent first_answer | accepted first_answer | unmet first_answer | declined first_answer
  | unreleased first_answer | retried first_answer =>
      rw [failed] at first_answer
      cases first_answer

theorem result_of_first_reply {first : Headers} {failure : Failure}
    (transcript : Transcript name line headers data answers replies number events result)
    (answered : answerOf name answers[0]? = .ok first)
    (failed : responseOf number replies[0]? = .error failure) : result = .error failure := by
  cases transcript with
  | unasked first_answer =>
      rw [answered] at first_answer
      cases first_answer
  | unsent _ first_reply =>
      rw [failed] at first_reply
      rw [Except.error.inj first_reply]
  | accepted _ first_reply _ =>
      rw [failed] at first_reply
      cases first_reply
  | unmet _ challenge | declined _ challenge | unreleased _ challenge | retried _ challenge =>
      rw [challenge] at failed
      cases failed

/-- After a challenge the second answer tells how a transcript goes on: a failure is followed by the
release of the challenge, and credentials by the second request if the release does not fail. -/
theorem following_challenge {first received : Headers} {content : Body} {hook : Option Hook}
    (transcript : Transcript name line headers data answers replies number events result)
    (answered : answerOf name answers[0]? = .ok first)
    (challenged : replies[0]? = some (.response unauthorized received content hook)) :
    ∃ earlier later, events = earlier ++ .authenticate name received :: later ∧
      match answerOf name answers[1]? with
      | .error failure =>
          later = releaseOf number hook ∧
            result =
              .error (if hook = some .failing then .closing (.reply .origin number) else failure)
      | .ok second =>
          second.isEmpty = false → hook ≠ some .failing →
            result = responseOf (number + 1) replies[1]? := by
  cases transcript with
  | unasked first_answer =>
      rw [answered] at first_answer
      cases first_answer
  | unsent _ first_reply =>
      rw [challenged] at first_reply
      cases first_reply
  | accepted _ first_reply accepted =>
      rw [challenged] at first_reply
      cases first_reply
      exact absurd rfl accepted
  | unmet _ challenge second_answer =>
      rw [challenged] at challenge
      cases challenge
      rw [second_answer]
      exact ⟨_, _, rfl, rfl, rfl⟩
  | declined _ challenge second_answer nothing =>
      rw [challenged] at challenge
      cases challenge
      rw [second_answer]
      refine ⟨_, _, rfl, fun something => ?_⟩
      rw [something] at nothing
      cases nothing
  | unreleased _ challenge second_answer _ failing =>
      rw [challenged] at challenge
      cases challenge
      rw [second_answer]
      exact ⟨_, _, rfl, fun _ released => absurd failing released⟩
  | retried _ challenge second_answer =>
      rw [challenged] at challenge
      cases challenge
      rw [second_answer]
      exact ⟨_, _, rfl, fun _ _ => rfl⟩

end Passes

/-- A failure of the body, of the authenticator or of the origin is the result of a request with
credentials, unless the release of a challenge fails after the authenticator did. -/
theorem respond_passes_failures (number : Nat) (name : Text) (line : Option Text)
    (headers : Headers) (body : Body) (network : Network) :
    let call := (recorded number name).respond line headers body
    match (body.toContent .caller).read.result with
    | .error failure => result call network = .error failure
    | .ok _ =>
        PassesFailures name (network.answers number) network.origin.pending network.origin.served
          (observed call network) (result call network) := by
  intro call
  split
  · rename_i failure unread
    rw [result_eq, finish_unread number name line headers unread]
  · rename_i data reading
    obtain ⟨events, observed_eq, transcript⟩ :=
      transcript_of_read number name line headers reading network
    rw [observed_eq]
    constructor
    case first_answer =>
      intro _ failed
      exact result_of_first_answer transcript failed
    case first_reply =>
      intro _ _ answered failed
      exact result_of_first_reply transcript answered failed
    case second_answer =>
      intro _ _ _ _ _ answered challenged failed
      obtain ⟨earlier, later, events_eq, follows⟩ :=
        following_challenge transcript answered challenged
      rw [failed] at follows
      obtain ⟨rfl, ended⟩ := follows
      exact ⟨⟨_, by rw [events_eq, ← List.append_assoc]⟩, ended⟩
    case second_reply =>
      intro _ _ _ _ _ _ answered challenged met something released failed
      obtain ⟨_, _, -, follows⟩ := following_challenge transcript answered challenged
      rw [met] at follows
      rw [follows something released, failed]

/-- A cancellation is lost when it reaches the authenticator on a challenge whose release fails. -/
theorem cancellation_lost_when_release_fails :
    let stop : Failure := .raised .cancelled "stop".toList
    let network : Network :=
      { origin := { pending := [.response unauthorized .empty .none (some .failing)] }
        verdicts := [[.headers .empty, .failure stop]] }
    let call := (recorded 0 "auth".toList).respond (some "GET / HTTP/1.1".toList) .empty .none
    answerOf "auth".toList (network.answers 0)[1]? = .error stop ∧
      result call network = .error (.closing (.reply .origin 0)) ∧
      result call network ≠ .error stop := by
  refine ⟨rfl, rfl, ?_⟩
  intro same
  cases same

end Service
end HttpAuth
