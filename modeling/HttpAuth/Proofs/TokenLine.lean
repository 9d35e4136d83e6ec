import HttpAuth.Proofs.Contacts
import HttpAuth.Proofs.Line
import HttpAuth.Proofs.Target

/-!
# The request line for a token

The line for a target is read back unless the target holds a space, and then it is sent.  The
forwarded parameters are encoded and bring no space in, but the path and the query of the realm are
kept as they are written.  With a space in one of them the line has a fourth field, and the request
fails before anything is sent.
-/

namespace HttpAuth

open Run

namespace RealmTarget

variable {target : RealmTarget}

/-- The path or the query has a space. -/
def HasSpace (target : RealmTarget) : Prop :=
  ' ' ∈ target.path ∨ ' ' ∈ target.query

/-- The path with the query after it. -/
def resource (target : RealmTarget) : Text :=
  target.path ++ if target.query = [] then [] else '?' :: target.query

/-- The fields of the line for a token. -/
def request (target : RealmTarget) : RequestLine :=
  { method := "GET".toList, target := target.resource }

theorem line_eq_text (filled : target.path ≠ []) :
    target.line "GET".toList = target.request.text := by
  have built : RequestLine.build "GET".toList target.path (some target.query) = target.request := by
    simp only [RequestLine.build, request, resource, List.isEmpty_iff, filled, Option.getD_some,
      if_false]
    rfl
  rw [line, built]

theorem tight_text (target : RealmTarget) : Text.Tight target.request.text :=
  RequestLine.tight_get target.resource

theorem space_mem_resource_iff : ' ' ∈ target.resource ↔ target.HasSpace := by
  by_cases queried : target.query = []
  · simp [resource, HasSpace, queried]
  · simp [resource, HasSpace, queried]

theorem cut_resource (unmarked : '?' ∉ target.path) :
    Text.cut '?' target.resource =
      (target.path, if target.query = [] then none else some target.query) := by
  rw [resource]
  split
  · rw [List.append_nil, Text.cut_of_not_mem unmarked]
  · rw [Text.cut_append_mark unmarked]

theorem parse_text (filled : target.path ≠ []) (words : ¬target.HasSpace) :
    RequestLine.parse (some target.request.text) = .ok target.request :=
  RequestLine.parse_get (List.append_ne_nil_of_left_ne_nil filled _)
    (mt space_mem_resource_iff.mp words)

theorem parse_text_of_space (space : target.HasSpace) :
    RequestLine.parse (some target.request.text) =
      .error (.malformed (some target.request.text)) :=
  RequestLine.parse_text_of_space (space_mem_resource_iff.mpr space) target.tight_text

end RealmTarget

namespace Challenge

variable {challenge : Challenge} {target : RealmTarget}

theorem path_ne_nil (accepted : challenge.target = .ok target) : target.path ≠ [] := by
  obtain ⟨realm, uri, -, -, -, -, -, rfl⟩ := target_eq_ok_iff.mp accepted
  rw [reached]
  split
  · exact List.cons_ne_nil _ _
  · rename_i filled
    exact fun empty => filled (List.isEmpty_iff.mpr empty)

theorem question_not_mem_path (accepted : challenge.target = .ok target) :
    '?' ∉ target.path := by
  obtain ⟨realm, uri, -, split, -, -, -, rfl⟩ := target_eq_ok_iff.mp accepted
  rw [reached]
  split
  · exact List.not_mem_cons_of_ne_of_not_mem (by decide) List.not_mem_nil
  · exact Uri.question_not_mem_path split

/-- A target has a space exactly when the path or the query of the realm has one. -/
theorem hasSpace_reached_iff (uri : Uri) :
    (challenge.reached uri).HasSpace ↔ ' ' ∈ uri.path ∨ ' ' ∈ uri.query := by
  have query_iff := challenge.space_mem_mergedQuery_iff uri.query
  cases path : uri.path <;> simp [RealmTarget.HasSpace, reached, path, query_iff]

/-- The line for a token is read back with the parts of its target, and sent as it is, unless the
path or the query of the realm has a space.  Then the line cannot be read, and an endpoint over HTTP
refuses it before anything else. -/
theorem token_line_cases (accepted : challenge.target = .ok target) :
    let line := some (target.line "GET".toList)
    (∃ realm uri, challenge.realm? = some realm ∧ Uri.split realm = .ok uri ∧
      (target.HasSpace ↔ ' ' ∈ uri.path ∨ ' ' ∈ uri.query)) ∧
    (¬target.HasSpace →
      (∃ read, RequestLine.parse line = .ok read ∧ read.method = "GET".toList ∧
        read.path = target.path ∧
        read.query? = if target.query = [] then none else some target.query) ∧
      ∀ secure host port headers network,
        contacts ((Endpoint.remote secure host port).respond line headers .none) network =
          [.send "GET".toList (Endpoint.url secure host port target.resource) headers none]) ∧
    (target.HasSpace →
      RequestLine.parse line = .error (.malformed line) ∧
      ∀ secure host port headers network,
        finish ((Endpoint.remote secure host port).respond line headers .none) network =
          (network, .error (.requestLine (.malformed line)))) := by
  intro line
  have filled := path_ne_nil accepted
  have line_eq : line = some target.request.text :=
    congrArg some (RealmTarget.line_eq_text filled)
  refine ⟨?realm, ?read, ?refused⟩
  case realm =>
    obtain ⟨realm, uri, given, split, -, -, -, rfl⟩ := target_eq_ok_iff.mp accepted
    exact ⟨realm, uri, given, split, hasSpace_reached_iff uri⟩
  case read =>
    intro words
    have read : RequestLine.parse line = .ok target.request := by
      rw [line_eq, RealmTarget.parse_text filled words]
    have parts := RealmTarget.cut_resource (question_not_mem_path accepted)
    constructor
    · exact ⟨target.request, read, rfl, congrArg Prod.fst parts, congrArg Prod.snd parts⟩
    · intro secure host port headers network
      rw [Endpoint.contacts_respond, Endpoint.requests, read]
      rfl
  case refused =>
    intro space
    have refused : RequestLine.parse line = .error (.malformed line) := by
      rw [line_eq, RealmTarget.parse_text_of_space space]
    refine ⟨refused, ?_⟩
    intro secure host port headers network
    simp only [Endpoint.respond, finish_bind, finish_ofExcept, refused]
    rfl

theorem token_line_cases_of_plain_realm :
    let challenge : Challenge :=
      ⟨"Bearer".toList, [("realm".toList, "https://h/t?a=b".toList)]⟩
    let target : RealmTarget := ⟨true, ['h'], none, "/t".toList, "a=b".toList⟩
    challenge.target = .ok target ∧
      ∃ read, RequestLine.parse (some (target.line "GET".toList)) = .ok read ∧
        read.method = "GET".toList ∧ read.path = "/t".toList ∧ read.query? = some "a=b".toList := by
  have accepted : (⟨"Bearer".toList, [("realm".toList, "https://h/t?a=b".toList)]⟩ :
      Challenge).target = .ok ⟨true, ['h'], none, "/t".toList, "a=b".toList⟩ := rfl
  have words : ¬RealmTarget.HasSpace ⟨true, ['h'], none, "/t".toList, "a=b".toList⟩ := by
    unfold RealmTarget.HasSpace
    decide
  exact ⟨accepted, ((token_line_cases accepted).2.1 words).1⟩

/-- A space in the path of the realm makes a target whose line cannot be read. -/
theorem token_line_malformed_of_space :
    let challenge : Challenge := ⟨"Bearer".toList, [("realm".toList, "https://h/a b".toList)]⟩
    let target : RealmTarget := ⟨true, ['h'], none, "/a b".toList, []⟩
    challenge.target = .ok target ∧
      RequestLine.parse (some (target.line "GET".toList)) =
        .error (.malformed (some "GET /a b HTTP/1.1".toList)) :=
  ⟨rfl, rfl⟩

end Challenge
end HttpAuth
