import HttpAuth.Proofs.Delivery
import HttpAuth.Proofs.Disposal
import HttpAuth.Proofs.Spending
import HttpAuth.Proofs.Target

/-!
# Requests over HTTP

What an endpoint over HTTP does with a request.  A line that cannot be read is refused before
anything else, and a body that cannot be read before anything is sent.  Otherwise one request is
sent, to a URL whose target has no influence on where it goes, and the response comes back as the
client received it.
-/

namespace HttpAuth

/-! ## Where a URL goes -/

namespace Uri

/-- The scheme, the host and the port that a text names. -/
def destination (text : Text) : Except Error (Text × Text × Port) :=
  (split text).map fun uri => (uri.scheme, uri.host, uri.port)

/-- The path and the query have no influence on the destination. -/
theorem destination_eq (text : Text) :
    destination text =
      (do
        let uri : Uri := { parts text with path := [], query := [] }
        checkBrackets uri.authority
        checkConfusables uri.authority
        return (uri.scheme, uri.host, uri.port)) := by
  have split_eq : split text = (do
      checkBrackets (parts text).authority
      checkConfusables (parts text).authority
      return parts text) := rfl
  rw [destination, split_eq]
  generalize parts text = uri
  dsimp only
  cases checkBrackets uri.authority with
  | error error => rfl
  | ok => cases checkConfusables uri.authority <;> rfl

/-- What is kept of a text behind its start. -/
def kept (text : Text) : Text :=
  text.filter fun c => c != '\t' && c != '\r' && c != '\n'

/-- The character is kept inside an authority. -/
def IsPlain (c : Char) : Prop :=
  endsAuthority c = false ∧ c ∉ ['\t', '\r', '\n']

instance : DecidablePred IsPlain :=
  fun _ => inferInstanceAs (Decidable (_ ∧ _))

theorem isPlain_of_isDigit {c : Char} (digit : c.isDigit = true) : IsPlain c := by
  have listed : ∀ code < 58, 48 ≤ code → IsPlain (Char.ofNat code) := by decide
  obtain ⟨first, last⟩ := Text.isDigit_iff.mp digit
  rw [← Char.ofNat_toNat c]
  exact listed c.toNat (by omega) first

/-- An authority ends at a slash. -/
theorem takeWhile_append_slash (front rest : Text) :
    (front ++ '/' :: rest).takeWhile (!endsAuthority ·) =
      front.takeWhile (!endsAuthority ·) := by
  induction front with
  | nil => rfl
  | cons c front induction =>
      rw [List.cons_append, List.takeWhile_cons, List.takeWhile_cons, induction]

end Uri

namespace Endpoint

open Run Uri Network

variable (secure : Bool) (host : Text) (port : Int)

/-- The name of the scheme. -/
def schemeName : Text :=
  (if secure then "https" else "http").toList

/-- The host and the port as they stand in a URL. -/
def hostPort : Text :=
  urlHost host ++ ':' :: (toString port).toList

theorem urlTarget_cons (target : Text) : ∃ rest, urlTarget target = '/' :: rest := by
  rw [urlTarget]
  split
  · rename_i rooted
    obtain ⟨rest, target_eq⟩ := List.head?_eq_some_iff.mp rooted
    exact ⟨rest, target_eq⟩
  · exact ⟨target, rfl⟩

/-- The target stands behind the authority of a URL. -/
theorem parts_url (target : Text) :
    (parts (url secure host port target)).scheme = schemeName secure ∧
      (parts (url secure host port target)).authority =
        (kept (hostPort host port)).takeWhile (!endsAuthority ·) := by
  obtain ⟨rest, target_eq⟩ := urlTarget_cons target
  have cleaned_eq : cleaned (url secure host port target) =
      schemeName secure ++
        ':' :: '/' :: '/' :: (kept (hostPort host port) ++ '/' :: kept rest) := by
    rw [url, base, target_eq]
    cases secure <;> simp [cleaned, kept, schemeName, hostPort]
  have cut_scheme : cutScheme (cleaned (url secure host port target)) =
      (schemeName secure, '/' :: '/' :: (kept (hostPort host port) ++ '/' :: kept rest)) := by
    rw [cleaned_eq, cutScheme, Text.cut_append_mark (by cases secure <;> decide)]
    cases secure <;> rfl
  constructor
  · simp only [parts, cut_scheme]
  · simp only [parts, cut_scheme]
    exact takeWhile_append_slash _ _

theorem isPlain_of_mem_port {c : Char} (member : c ∈ (toString port).toList) : IsPlain c := by
  have of_digits {value : Nat} (inside : c ∈ value.repr.toList) : IsPlain c := by
    rw [Nat.toList_repr] at inside
    exact isPlain_of_isDigit (Nat.isDigit_of_mem_toDigits (by decide) (by decide) inside)
  cases port with
  | ofNat value => exact of_digits member
  | negSucc value =>
      change c ∈ ("-" ++ (value + 1).repr).toList at member
      rw [String.toList_append, List.mem_append] at member
      rcases member with sign | digits
      · obtain rfl := List.mem_singleton.mp sign
        decide
      · exact of_digits digits

variable {host} in
theorem isPlain_of_mem_hostPort (plain : ∀ c ∈ host, IsPlain c) :
    ∀ c ∈ hostPort host port, IsPlain c := by
  intro c member
  rw [hostPort, urlHost, List.mem_append, List.mem_cons] at member
  rcases member with in_host | rfl | in_port
  · split at in_host
    · rw [List.cons_append, List.mem_cons, List.mem_append, List.mem_singleton] at in_host
      rcases in_host with rfl | given | rfl
      · decide
      · exact plain c given
      · decide
    · exact plain c in_host
  · decide
  · exact isPlain_of_mem_port port in_port

/-- A URL for a target. -/
structure Addressed (target address : Text) : Prop where
  /-- How it is written: brackets enclose a host with a colon, and a slash is put in front of a
  target that does not start with one. -/
  form : ∃ rooted,
    address = schemeName secure ++ "://".toList ++
      (if ':' ∈ host then '[' :: host ++ [']'] else host) ++ ':' :: (toString port).toList ++
        rooted ∧
    rooted.head? = some '/' ∧ rooted = if target.head? = some '/' then target else '/' :: target
  /-- Any other target leads to the same scheme, host and port. -/
  independent : ∀ other,
    destination (url secure host port other) = destination address
  /-- The scheme and the authority are those of the endpoint, if its host can be told apart. -/
  authority : (parts address).scheme = schemeName secure ∧
    ((∀ c ∈ host, IsPlain c) → (parts address).authority = hostPort host port)

theorem addressed_url (target : Text) :
    Addressed secure host port target (url secure host port target) := by
  have parts_eq := parts_url secure host port
  constructor
  case form =>
    refine ⟨urlTarget target, ?_, ?_, rfl⟩
    · simp [url, base, urlHost, schemeName]
    · obtain ⟨rest, target_eq⟩ := urlTarget_cons target
      rw [target_eq, List.head?_cons]
  case independent =>
    intro other
    simp only [destination_eq, (parts_eq other).1, (parts_eq other).2, (parts_eq target).1,
      (parts_eq target).2]
  case authority =>
    refine ⟨(parts_eq target).1, fun plain => ?_⟩
    have inside := isPlain_of_mem_hostPort port plain
    have kept_eq : kept (hostPort host port) = hostPort host port := by
      refine List.filter_eq_self.mpr fun c member => ?_
      have others := (inside c member).2
      simp only [List.mem_cons, List.not_mem_nil, or_false, not_or] at others
      simp [others]
    have whole : (hostPort host port).takeWhile (!endsAuthority ·) = hostPort host port := by
      have all : (hostPort host port ++ []).takeWhile (!endsAuthority ·) =
          hostPort host port ++ [].takeWhile (!endsAuthority ·) :=
        List.takeWhile_append_of_pos fun c member =>
          (Bool.not_eq_true' _).mpr (inside c member).1
      rwa [List.takeWhile_nil, List.append_nil] at all
    rw [(parts_eq target).2, kept_eq, whole]

/-! ## What becomes of a request -/

variable {line : Option Text} {headers : Headers} {body : Body} {network : Network}

theorem finish_respond_of_refused {error : RequestLine.Error}
    (refused : RequestLine.parse line = .error error) :
    finish ((remote secure host port).respond line headers body) network =
      (network, .error (.requestLine error)) := by
  simp only [respond, finish_bind, refused, finish_ofExcept_error]

theorem finish_respond_of_unread {read : RequestLine} {failure : Failure}
    (accepted : RequestLine.parse line = .ok read)
    (reading : (body.toContent .caller).read.result = .error failure) :
    finish ((remote secure host port).respond line headers body) network =
      (network.observe (body.toContent .caller).read.events, .error failure) := by
  simp only [respond, finish_bind, accepted, finish_ofExcept_ok, finish_readBody, reading]

/-- The events of a request, behind those of reading its body. -/
def sending (read : RequestLine) (headers : Headers) (data : Octets) : List Event :=
  let address := url secure host port read.target
  [.log (.httpRequest read.method address),
    .send read.method address headers (if data.isEmpty then none else some data)]

/-- The records of a response that was received. -/
def receiving : Except Failure Response → List Event
  | .ok response => [.log (.httpResponse response.status host port)]
  | .error _ => []

theorem finish_respond_of_read (headers : Headers) (network : Network) {read : RequestLine}
    {data : Octets} (accepted : RequestLine.parse line = .ok read)
    (reading : (body.toContent .caller).read.result = .ok data) :
    let replied := network.reply .client fun owner body _ => body.received owner
    let sent := network.observe ((body.toContent .caller).read.events ++
      sending secure host port read headers data)
    finish ((remote secure host port).respond line headers body) network =
      ((sent.passed .client).observe (receiving host port replied), replied) := by
  intro replied sent
  have replied_eq : (network.reply .client fun owner body _ => body.received owner) = replied := rfl
  simp only [respond, finish_bind, accepted, finish_ofExcept_ok, finish_readBody, reading,
    finish_log, finish_emit, finish_receive_eq, reply_observe, replied_eq, ← observe_append,
    List.append_assoc, List.singleton_append]
  clear_value replied
  cases replied with
  | error failure =>
      rw [receiving, observe_nil]
      rfl
  | ok response => rfl

theorem exists_of_reply {network : Network} {response : Response}
    (replied : network.reply .client (fun owner content _ => content.received owner) =
      .ok response) :
    ∃ content hook, network.client.pending[0]? =
        some (.response response.status response.headers content hook) ∧
      response.body = content.received (.reply .client network.client.served) := by
  have unasked : requested .client [] = 0 := rfl
  rw [← network.reply_spent unasked] at replied
  exact reply_eq_ok_of_spent replied

/-- Making a request touches no body but the one that it reads. -/
theorem untouched_request {owner other : Owner} {reading : List Event}
    (owned : ∀ event ∈ reading, event.owner? = some other) (different : other ≠ owner)
    (read : RequestLine) (headers : Headers) (data : Octets)
    (outcome : Except Failure Response) :
    Untouched owner (reading ++ sending secure host port read headers data ++
      receiving host port outcome) := by
  have logged : Untouched owner (receiving host port outcome) := by
    cases outcome <;> simp [receiving, Event.owner?]
  rw [Untouched.append, Untouched.append]
  exact ⟨⟨.of_owner different owned, by simp [sending, Event.owner?]⟩, logged⟩

/-- A request was sent over HTTP, and its reply came back. -/
structure Transported (read : RequestLine) (headers : Headers) (data : Octets)
    (reading : List Event) (network : Network) (call : Run Response) : Prop where
  /-- One request is sent, after the body was read; it has content unless there is none. -/
  sent : ∃ address, Addressed secure host port read.target address ∧
    observed call network =
      reading ++
        [.log (.httpRequest read.method address),
          .send read.method address headers (if data.isEmpty then none else some data)] ++
        receiving host port (result call network)
  /-- The result is the next reply that the client receives. -/
  replied : result call network =
    network.reply .client fun owner content _ => content.received owner
  /-- A response has the status and the headers of the reply, and its body is that of the reply:
  nothing of it was read or released, and it may be used in any way. -/
  returned : ∀ response, result call network = .ok response →
    ∃ content hook, network.client.pending[0]? =
        some (.response response.status response.headers content hook) ∧
      let owner : Owner := .reply .client network.client.served
      Untouched owner (observed call network) ∧
        ∀ operations, content.Consumed owner
          (({ content := response.body } : Session).history operations)

/-- What an endpoint over HTTP does with a request: a line that cannot be read is refused before
anything is observed, a body that cannot be read ends the request with its failure before anything
is sent, and otherwise one request is sent with all that the body holds, and its reply comes
back. -/
theorem respond_over_http (line : Option Text) (headers : Headers) (body : Body)
    (network : Network) :
    let call := (remote secure host port).respond line headers body
    let reading := (body.toContent .caller).read
    (∀ event ∈ reading.events, event.owner? = some .caller) ∧
      match RequestLine.parse line, reading.result with
      | .error error, _ => finish call network = (network, .error (.requestLine error))
      | .ok _, .error failure => body.Fails .caller failure ∧
          finish call network = (network.observe reading.events, .error failure)
      | .ok read, .ok data =>
          data = body.data ∧
            Transported secure host port read headers data reading.events network call := by
  intro call reading
  refine ⟨body.read_owner .caller, ?_⟩
  cases accepted : RequestLine.parse line with
  | error error => exact finish_respond_of_refused secure host port accepted
  | ok read =>
      cases given : reading.result with
      | error failure =>
          exact ⟨body.read_fails .caller given,
            finish_respond_of_unread secure host port accepted given⟩
      | ok data =>
          refine ⟨Body.read_data given, ?_⟩
          have finished :=
            finish_respond_of_read secure host port headers network accepted given
          have replied : result call network =
              network.reply .client fun owner content _ => content.received owner := by
            rw [result_eq, finished]
          have observed_eq : observed call network =
              reading.events ++ sending secure host port read headers data ++
                receiving host port (result call network) := by
            apply observed_of_trace
            rw [final_eq, finished, trace_observe, trace_passed, trace_observe, List.append_assoc,
              replied]
          refine ⟨⟨_, addressed_url secure host port read.target, observed_eq⟩, replied, ?_⟩
          intro response returned
          obtain ⟨content, hook, first, body_eq⟩ := exists_of_reply (replied.symm.trans returned)
          refine ⟨content, hook, first, ?_, fun operations => ?_⟩
          · have different : Owner.caller ≠ .reply .client network.client.served := nofun
            rw [observed_eq]
            exact untouched_request secure host port (body.read_owner .caller) different _ _ _ _
          · rw [body_eq]
            exact content.received_consumed _ operations

end Endpoint
end HttpAuth
