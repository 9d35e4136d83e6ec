import HttpAuth.Challenge.Basic
import HttpAuth.Proofs.Cutting
import HttpAuth.Proofs.Encoding
import HttpAuth.Proofs.Folding

/-!
# The query of a challenge

The forwarded parameters are read back from the query: between its ampersands there is one item for
each of them, in order, and an equals sign separates the encodings of the name and of the decoded
value.  Besides these marks a query holds letters and digits, the marks that are safe in a query, and
escapes.
-/

namespace HttpAuth
namespace Challenge

open Percent

/-- The parameters other than the realm. -/
def forwarded (challenge : Challenge) : List (Text × Text) :=
  challenge.params.filter fun param => Text.lower param.1 != realmName

/-- The character is a letter, a digit or a mark that is safe in a query. -/
def IsQueryChar (c : Char) : Prop :=
  c.isAlphanum = true ∨ c ∈ querySafe

/-- The name and the value that an item of a query encodes. -/
def readItem (item : Text) : Option (Text × Text) :=
  match Text.cut '=' item with
  | (name, some value) => do
      return (← (decodeStrict name).toOption, ← (decodeStrict value).toOption)
  | (_, none) => none

/-- The names and values that a query encodes; an empty query has no item. -/
def readQuery (query : Text) : Option (List (Text × Text)) :=
  if query.isEmpty then some [] else (Text.pieces '&' query).mapM readItem

theorem query_eq (challenge : Challenge) :
    challenge.query = Text.joined '&' (challenge.forwarded.map queryItem) := rfl

/-- A parameter is forwarded unless its name is that of the realm in some letter case. -/
theorem mem_forwarded_iff {challenge : Challenge} {param : Text × Text} :
    param ∈ challenge.forwarded ↔
      param ∈ challenge.params ∧ param.1.map Char.toLower ≠ realmName := by
  have folded : Text.lower param.1 = realmName ↔ param.1.map Char.toLower = realmName :=
    Text.lower_eq_iff (by decide) (by decide)
  rw [forwarded, List.mem_filter, bne_iff_ne, ne_eq, folded]

/-! ## Characters -/

theorem isQueryChar_of_kept {c : Char} (kept : isUnreserved c = true ∨ c ∈ querySafe) :
    IsQueryChar c := by
  rcases kept with unreserved | safe
  · simp only [isUnreserved, Bool.or_eq_true, beq_iff_eq] at unreserved
    rcases unreserved with (((alphanum | rfl) | rfl) | rfl) | rfl
    · exact .inl alphanum
    all_goals exact .inr (by decide)
  · exact .inr safe

/-- The characters of a query are visible, and some of the visible ones are not among them. -/
theorem IsQueryChar.spec {c : Char} (plain : IsQueryChar c) :
    (0x20 < c.toNat ∧ c.toNat < 0x7F) ∧ c ∉ "#+?\"&=%".toList := by
  rcases plain with alphanum | safe
  · have ranges := Text.isAlphanum_iff.mp alphanum
    refine ⟨by omega, fun marked => ?_⟩
    have letters : ("#+?\"&=%".toList.all (!·.isAlphanum)) = true := by decide
    simpa [alphanum] using List.all_eq_true.mp letters c marked
  · have marks : (querySafe.all fun mark => 0x20 < mark.toNat && mark.toNat < 0x7F &&
        !"#+?\"&=%".toList.contains mark) = true := by decide
    simpa using List.all_eq_true.mp marks c safe

/-- The marks between the parts of a query do not occur in encoded texts. -/
theorem not_mem_encode {mark : Char} (separator : mark = '&' ∨ mark = '=') (text : Text) :
    mark ∉ encode querySafe text := by
  intro member
  have listed : mark ∈ "#+?\"&=%".toList ∧ mark ≠ '%' := by
    rcases separator with rfl | rfl <;> decide
  rcases mem_encode member with percent | kept
  · exact listed.2 percent
  · exact (isQueryChar_of_kept kept).spec.2 listed.1

/-- A query is written with its own characters, the separators and escapes. -/
theorem written_query (challenge : Challenge) :
    Written (fun c => IsQueryChar c ∨ c = '&' ∨ c = '=') challenge.query := by
  have written (text : Text) :
      Written (fun c => IsQueryChar c ∨ c = '&' ∨ c = '=') (encode querySafe text) :=
    (written_encode querySafe text).mono fun c kept => .inl (isQueryChar_of_kept kept.2)
  rw [query_eq]
  refine .joined (.inr (.inl rfl)) fun item member => ?_
  obtain ⟨param, -, rfl⟩ := List.mem_map.mp member
  exact (written param.1).append (.plain (.inr (.inr rfl)) (written (decode param.2)))

theorem mem_query {challenge : Challenge} {c : Char} (member : c ∈ challenge.query) :
    IsQueryChar c ∨ c = '&' ∨ c = '=' ∨ c = '%' := by
  rcases challenge.written_query.mem member with percent | ⟨digit, small, rfl⟩ | kept
  · exact .inr (.inr (.inr percent))
  · exact .inl (isQueryChar_of_kept (.inl (isUnreserved_capital digit small)))
  · rcases kept with plain | ampersand | equals
    · exact .inl plain
    · exact .inr (.inl ampersand)
    · exact .inr (.inr (.inl equals))

/-- All characters of a query are visible ones of ASCII, and these are not among them. -/
theorem visible_of_mem_query {challenge : Challenge} {c : Char} (member : c ∈ challenge.query) :
    (0x20 < c.toNat ∧ c.toNat < 0x7F) ∧ c ∉ "#+?\"".toList := by
  rcases mem_query member with plain | rfl | rfl | rfl
  · have spec := plain.spec
    exact ⟨spec.1, fun marked => spec.2 (List.mem_append_left "&=%".toList marked)⟩
  all_goals decide

theorem space_not_mem_query (challenge : Challenge) : ' ' ∉ challenge.query :=
  fun member => absurd (visible_of_mem_query member).1.1 (by decide)

/-! ## Items -/

theorem queryItem_ne_nil (param : Text × Text) : queryItem param ≠ [] :=
  List.append_ne_nil_of_right_ne_nil _ (List.cons_ne_nil _ _)

theorem ampersand_not_mem_queryItem (param : Text × Text) : '&' ∉ queryItem param := by
  intro member
  rcases List.mem_append.mp member with name | rest
  · exact not_mem_encode (.inl rfl) _ name
  · rcases List.mem_cons.mp rest with equals | value
    · cases equals
    · exact not_mem_encode (.inl rfl) _ value

/-- A parameter is read back from its item, with its value decoded. -/
theorem readItem_queryItem (param : Text × Text) :
    readItem (queryItem param) = some (param.1, decode param.2) := by
  have unescaped : '%' ∉ querySafe := by decide
  rw [readItem, queryItem, Text.cut_append_mark (not_mem_encode (.inr rfl) param.1)]
  simp only [decodeStrict_encode unescaped]
  rfl

theorem mapM_readItem (params : List (Text × Text)) :
    (params.map queryItem).mapM readItem =
      some (params.map fun param => (param.1, decode param.2)) := by
  induction params with
  | nil => rfl
  | cons param params induction =>
      rw [List.map_cons, List.mapM_cons, readItem_queryItem, induction]
      rfl

/-! ## Queries -/

theorem query_eq_nil_iff (challenge : Challenge) :
    challenge.query = [] ↔ challenge.forwarded = [] := by
  rw [query_eq]
  cases challenge.forwarded with
  | nil => simp [Text.joined]
  | cons param params =>
      have filled := queryItem_ne_nil param
      cases params <;> simp [Text.joined, filled]

/-- The forwarded parameters are read back from the query, in order and with their values decoded.
The query is empty when there are none.  It is written with letters, digits, safe marks, separators
and escapes, all of them visible characters of ASCII, and it has none of the marks that would end
it or be read as a space. -/
theorem query_read_back (challenge : Challenge) :
    readQuery challenge.query =
        some (challenge.forwarded.map fun param => (param.1, decode param.2)) ∧
      (challenge.query = [] ↔ challenge.forwarded = []) ∧
      (∀ param, param ∈ challenge.forwarded ↔
        param ∈ challenge.params ∧ param.1.map Char.toLower ≠ realmName) ∧
      Written (fun c => IsQueryChar c ∨ c = '&' ∨ c = '=') challenge.query ∧
      ∀ c ∈ challenge.query, (0x20 < c.toNat ∧ c.toNat < 0x7F) ∧ c ∉ "#+?\"".toList := by
  refine ⟨?read, challenge.query_eq_nil_iff, fun param => mem_forwarded_iff,
    challenge.written_query, fun c => visible_of_mem_query⟩
  rw [readQuery]
  split
  · rename_i empty
    rw [challenge.query_eq_nil_iff.mp (List.isEmpty_iff.mp empty)]
    rfl
  · rename_i filled
    have some_param : challenge.forwarded.map queryItem ≠ [] := by
      intro none_forwarded
      refine filled (List.isEmpty_iff.mpr ?_)
      rw [query_eq, none_forwarded]
      rfl
    rw [query_eq, Text.pieces_joined some_param ?unmarked, mapM_readItem]
    intro item member
    obtain ⟨param, -, rfl⟩ := List.mem_map.mp member
    exact ampersand_not_mem_queryItem param

/-- A malformed escape is text. -/
example :
    let challenge : Challenge :=
      { scheme := "Bearer".toList
        params := [("REALM".toList, ['r']), ("scope".toList, "a+b%20c%2".toList)] }
    challenge.query = "scope=a%2Bb%20c%252".toList := by
  decide +kernel

end Challenge
end HttpAuth
