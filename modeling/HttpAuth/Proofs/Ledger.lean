import HttpAuth.Proofs.Body
import HttpAuth.Proofs.Run

/-!
# A ledger of responses

Between two moments the responses of an HTTP client that were closed, together with those that are
still owed, come to those that were handed out together with those that were owed before.  A ledger
says so for each response and counts every release.  Ledgers of consecutive moments add up.
-/

namespace HttpAuth

/-- The release of a response of the client. -/
def Event.release (number : Nat) : Event :=
  .close (.reply .client number) 0

/-- The numbers of the replies that are responses, when the first reply has a number. -/
def responseNumbers : Nat → List Reply → List Nat
  | _, [] => []
  | first, .response .. :: replies => first :: responseNumbers (first + 1) replies
  | first, .failure _ :: replies => responseNumbers (first + 1) replies

theorem responseNumbers_append (first : Nat) (left right : List Reply) :
    responseNumbers first (left ++ right) =
      responseNumbers first left ++ responseNumbers (first + left.length) right := by
  induction left generalizing first with
  | nil => rfl
  | cons reply replies induction =>
      have later : first + (replies.length + 1) = first + 1 + replies.length := by omega
      cases reply <;> simp [responseNumbers, induction, later]

theorem le_of_mem_responseNumbers {first number : Nat} {replies : List Reply}
    (member : number ∈ responseNumbers first replies) : first ≤ number := by
  induction replies generalizing first with
  | nil => cases member
  | cons reply replies induction =>
      cases reply with
      | failure failure => exact Nat.le_of_succ_le (induction member)
      | response status headers body hook =>
          rcases List.mem_cons.mp member with rfl | later
          · exact Nat.le_refl number
          · exact Nat.le_of_succ_le (induction later)

/-- No two responses have the same number. -/
theorem responseNumbers_nodup (first : Nat) (replies : List Reply) :
    (responseNumbers first replies).Nodup := by
  induction replies generalizing first with
  | nil => exact List.nodup_nil
  | cons reply replies induction =>
      cases reply with
      | failure failure => exact induction (first + 1)
      | response status headers body hook =>
          refine List.nodup_cons.mpr ⟨?_, induction (first + 1)⟩
          intro member
          exact Nat.not_succ_le_self first (le_of_mem_responseNumbers member)

namespace Network

/-- The numbers of the responses that the client handed out between two moments. -/
def handedOut (before after : Network) : List Nat :=
  responseNumbers before.client.served
    (before.client.pending.take (after.client.served - before.client.served))

/-- Between two moments the client gave these replies and these events were observed.  The
responses that were closed or are still owed are those that were handed out or were owed before,
each as often; and a response that was touched at all was closed. -/
structure Settles (before after : Network) (owed left : List Nat) (given : List Reply)
    (events : List Event) : Prop where
  /-- The client gave the replies. -/
  pending : before.client.pending = given ++ after.client.pending
  /-- The client counted the replies. -/
  served : after.client.served = before.client.served + given.length
  /-- The events were observed. -/
  trace : after.trace = before.trace ++ events
  /-- What was closed and what is owed come to what was handed out and what was owed. -/
  balance : ∀ number, events.count (.release number) + left.count number =
    (responseNumbers before.client.served given).count number + owed.count number
  /-- What was touched was closed. -/
  touched : ∀ event ∈ events, ∀ number, event.owner? = some (.reply .client number) →
    .release number ∈ events

/-- The reply with a number, when the client has it left. -/
def clientReply? (network : Network) (number : Nat) : Option Reply :=
  if number < network.client.served then none
  else network.client.pending[number - network.client.served]?

/-- The responses that are owed have been settled between two moments. -/
def Ledger (before after : Network) (owed left : List Nat) : Prop :=
  ∃ given events, Settles before after owed left given events

namespace Ledger

variable {before middle after : Network} {owed between left : List Nat}

theorem refl (network : Network) (owed : List Nat) : Ledger network network owed owed :=
  ⟨[], [], by simp, by simp, by simp, by simp [responseNumbers], by simp⟩

theorem trans (first : Ledger before middle owed between)
    (second : Ledger middle after between left) :
    Ledger before after owed left := by
  obtain ⟨given, events, first⟩ := first
  obtain ⟨later, others, second⟩ := second
  refine ⟨given ++ later, events ++ others, ?_, ?_, ?_, ?_, ?_⟩
  · rw [first.pending, second.pending, List.append_assoc]
  · rw [second.served, first.served, List.length_append, Nat.add_assoc]
  · rw [second.trace, first.trace, List.append_assoc]
  · intro number
    have first_balance := first.balance number
    have second_balance := second.balance number
    rw [first.served] at second_balance
    rw [responseNumbers_append, List.count_append, List.count_append]
    omega
  · intro event member number about
    rcases List.mem_append.mp member with early | late
    · exact List.mem_append_left _ (first.touched event early number about)
    · exact List.mem_append_right _ (second.touched event late number about)

/-- What is owed beside a settlement stays owed. -/
theorem beside (settled : Ledger before after owed left) (others : List Nat) :
    Ledger before after (owed ++ others) (left ++ others) := by
  obtain ⟨given, events, settled⟩ := settled
  refine ⟨given, events, settled.pending, settled.served, settled.trace, ?_, settled.touched⟩
  intro number
  have balance := settled.balance number
  rw [List.count_append, List.count_append]
  omega

/-- What leaves the client alone and is not about its responses settles nothing. -/
theorem of_unrelated {events : List Event} (owed : List Nat) (client : after.client = before.client)
    (trace : after.trace = before.trace ++ events)
    (unrelated : ∀ event ∈ events, ∀ number, event.owner? ≠ some (.reply .client number)) :
    Ledger before after owed owed := by
  refine ⟨[], events, by rw [client]; rfl, by rw [client]; rfl, trace, ?_, ?_⟩
  · intro number
    have untouched : events.count (.release number) = 0 := by
      rw [List.count_eq_zero]
      intro member
      exact unrelated _ member number rfl
    simp [untouched, responseNumbers]
  · intro event member number about
    exact absurd about (unrelated event member number)

/-- A log record settles nothing. -/
theorem of_log (record : LogRecord) (owed : List Nat) :
    Ledger before (before.observe [.log record]) owed owed :=
  .of_unrelated owed rfl rfl (by simp [Event.owner?])

/-- Observing one release of a response settles what is owed for it. -/
theorem settle (network : Network) (number : Nat) {events : List Event}
    (once : events.count (.release number) = 1)
    (owned : ∀ event ∈ events, event.owner? = some (.reply .client number)) :
    Ledger network (network.observe events) [number] [] := by
  refine ⟨[], events, rfl, rfl, rfl, ?_, ?_⟩
  · intro other
    by_cases same : number = other
    · subst same
      simp [once, responseNumbers]
    · have untouched : events.count (.release other) = 0 := by
        rw [List.count_eq_zero]
        intro member
        have about := owned _ member
        simp only [Event.release, Event.owner?, Option.some.injEq, Owner.reply.injEq] at about
        exact same about.2.symm
      simp [untouched, responseNumbers, same]
  · intro event member other about
    rw [owned event member] at about
    cases about
    exact List.count_pos_iff.mp (by omega)

/-- A failure of the client settles nothing. -/
theorem of_failed_reply {failure : Failure} {pending : List Reply} (owed : List Nat)
    (turn : before.client.pending = .failure failure :: pending) :
    Ledger before (before.served .client pending) owed owed :=
  ⟨[.failure failure], [], turn, rfl, by simp, by simp [responseNumbers], by simp⟩

/-- A response of the client is owed. -/
theorem of_response {status : Int} {headers : Headers} {body : Body} {hook : Option Hook}
    {pending : List Reply}
    (turn : before.client.pending = .response status headers body hook :: pending) :
    Ledger before (before.served .client pending) [] [before.client.served] :=
  ⟨[.response status headers body hook], [], turn, rfl, by simp, by simp [responseNumbers], by simp⟩

/-- A reply that is left at the end was left at the start. -/
theorem clientReply?_eq (settled : Ledger before after owed left) {number : Nat} {reply : Reply}
    (reply_eq : after.clientReply? number = some reply) :
    before.clientReply? number = some reply := by
  obtain ⟨given, events, settled⟩ := settled
  simp only [clientReply?] at reply_eq ⊢
  split at reply_eq
  · cases reply_eq
  · rename_i reached
    have served := settled.served
    rw [if_neg (by omega), settled.pending, List.getElem?_append_right (by omega), ← reply_eq]
    congr 1
    omega

/-- During a run that starts with nothing owed, a response is closed once when it was handed out and
is not owed at the end, and is not touched unless it is closed. -/
theorem observed_eq {α : Type} {action : Run α} {network : Network}
    (settled : Ledger network (Run.final action network) [] left) (number : Nat) :
    ((Run.observed action network).count (.release number) + left.count number =
        if number ∈ network.handedOut (Run.final action network) then 1 else 0) ∧
      ∀ event ∈ Run.observed action network, event.owner? = some (.reply .client number) →
        .release number ∈ Run.observed action network := by
  obtain ⟨given, events, settled⟩ := settled
  have handed : network.handedOut (Run.final action network) =
      responseNumbers network.client.served given := by
    rw [handedOut, settled.pending, settled.served, Nat.add_sub_cancel_left, List.take_left]
  rw [Run.observed_of_trace settled.trace, handed]
  refine ⟨?_, fun event member about => settled.touched event member number about⟩
  rw [settled.balance number, (responseNumbers_nodup network.client.served given).count,
    List.count_nil, Nat.add_zero]

end Ledger
end Network
end HttpAuth
