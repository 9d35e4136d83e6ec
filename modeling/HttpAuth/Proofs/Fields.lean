import HttpAuth.Headers
import HttpAuth.Proofs.Folding

/-!
# Header fields put together and looked up

Sequences of header fields are a monoid, and looking a name up respects it: the values of a name in
two sequences are those in the first and then those in the second.  However a sequence is put
together, its fields are those that went into it, in order and as they were given.
-/

namespace HttpAuth

/-- The fields that are given, in order. -/
def HeaderSource.pairs : HeaderSource → List (Text × Text)
  | .absent => []
  | .fields items => items
  | .table entries => entries

namespace Headers

/-- A way to put header fields together. -/
inductive Composition where
  /-- Fields in a form in which they are given. -/
  | given (source : HeaderSource)
  /-- A single field. -/
  | single (name value : Text)
  /-- The list of fields of a response. -/
  | listed (items : List (Text × Text))
  /-- One more field behind others. -/
  | added (front : Composition) (name value : Text)
  /-- Fields behind others. -/
  | joined (front back : Composition)
  /-- Fields in a form in which they are given, behind others. -/
  | followed (front : Composition) (source : HeaderSource)

namespace Composition

/-- The header fields that are put together. -/
def headers : Composition → Headers
  | .given source => ofSource source
  | .single name value => .single name value
  | .listed items => ofSource (.fields items)
  | .added front name value => front.headers.add name value
  | .joined front back => front.headers ++ back.headers
  | .followed front source => front.headers ++ source

/-- The fields that go in, from the first to the last. -/
def fields : Composition → List (Text × Text)
  | .given source => source.pairs
  | .single name value => [(name, value)]
  | .listed items => items
  | .added front name value => front.fields ++ [(name, value)]
  | .joined front back => front.fields ++ back.fields
  | .followed front source => front.fields ++ source.pairs

end Composition

/-! ## Concatenation -/

theorem eq_of_items {left right : Headers} (same : left.items = right.items) : left = right := by
  obtain ⟨items⟩ := left
  exact congrArg mk same

@[simp]
theorem items_ofSource (source : HeaderSource) : (ofSource source).items = source.pairs := by
  cases source <;> rfl

theorem append_source (headers : Headers) (source : HeaderSource) :
    headers ++ source = headers ++ ofSource source := rfl

@[simp]
theorem items_add (headers : Headers) (name value : Text) :
    (headers.add name value).items = headers.items ++ [(name, value)] := by
  rw [add, items_append, items_single]

/-- The operands that are returned as they are do not show: however fields are grouped, they come in
the same order. -/
theorem append_assoc (first second third : Headers) :
    first ++ second ++ third = first ++ (second ++ third) :=
  eq_of_items (by simp only [items_append, List.append_assoc])

theorem Composition.items_headers (composition : Composition) :
    composition.headers.items = composition.fields := by
  induction composition with
  | given source => exact items_ofSource source
  | single name value => rfl
  | listed items => rfl
  | added front name value induction => rw [headers, items_add, induction, fields]
  | joined front back front_eq back_eq => rw [headers, items_append, front_eq, back_eq, fields]
  | followed front source induction =>
      rw [headers, append_source, items_append, items_ofSource, induction, fields]

/-! ## Look-up -/

theorem getAll_single (field value name : Text) :
    (single field value).getAll name =
      if Text.lower field = Text.lower name then [value] else [] := by
  by_cases same : Text.lower field = Text.lower name <;> simp [getAll, sameName, same]

theorem contains_iff {headers : Headers} {name : Text} :
    headers.contains name = true ↔ headers.getAll name ≠ [] := by
  rw [contains, get?_eq_head?, List.isSome_head?]

/-- Names that differ in the case of ASCII letters are those of the same fields. -/
theorem sameName_congr {name other : Text}
    (same : other.map Char.toLower = name.map Char.toLower) (field : Text) :
    sameName field other = sameName field name := by
  rw [sameName, sameName, Text.lower_congr same]

theorem getAll_congr {name other : Text}
    (same : other.map Char.toLower = name.map Char.toLower) (headers : Headers) :
    headers.getAll other = headers.getAll name := by
  simp only [getAll, sameName_congr same]

/-- Header fields are a monoid, whatever form they are given in, and equal when their items are.
The values of a name in two sequences are those in the first and those in the second, and the values
in a single field are that of the field when the name is its own in lower case.  The first value of
a name heads all its values, and a name occurs when it has a value; the case of ASCII letters in a
name does not matter.  Whatever is put together in whatever way, the fields are those that went in,
in order. -/
theorem append_keeps_fields (first second third : Headers) (source : HeaderSource) (name : Text)
    (default : Option Text) (composition : Composition) :
    ((first ++ second).items = first.items ++ second.items ∧
      first ++ source = first ++ ofSource source ∧
      (first ++ source).items = first.items ++ source.pairs ∧
      (ofSource source ++ first).items = source.pairs ++ first.items ∧
      (ofSource source).items = source.pairs) ∧
    (first ++ second ++ third = first ++ (second ++ third) ∧ first ++ empty = first ∧
      empty ++ first = first) ∧
    ((first == second) = true ↔ first.items = second.items) ∧
    ((first ++ second).getAll name = first.getAll name ++ second.getAll name ∧
      ∀ field value, (single field value).getAll name =
        if Text.lower field = Text.lower name then [value] else []) ∧
    (first.getOr name default = (first.getAll name).head?.or default ∧
      (first.contains name = true ↔ first.getAll name ≠ [])) ∧
    (∀ other, other.map Char.toLower = name.map Char.toLower →
      first.getAll other = first.getAll name ∧
        first.getOr other default = first.getOr name default ∧
        first.contains other = first.contains name) ∧
    composition.headers.items = composition.fields := by
  refine ⟨⟨items_append first second, rfl, ?behind, ?before, items_ofSource source⟩, ?monoid,
    ?equal, ⟨getAll_append first second name, fun field value => getAll_single field value name⟩,
    ⟨?found, contains_iff⟩, fun other same => ?letters, composition.items_headers⟩
  case behind => rw [append_source, items_append, items_ofSource]
  case before => rw [items_append, items_ofSource]
  case monoid =>
    exact ⟨append_assoc first second third, append_empty first, empty_append first⟩
  case equal =>
    rw [beq_iff_eq]
    exact ⟨congrArg items, eq_of_items⟩
  case found => rw [getOr, get?_eq_head?]
  case letters =>
    have values := getAll_congr same first
    refine ⟨values, ?_, ?_⟩
    · rw [getOr, getOr, get?_eq_head?, get?_eq_head?, values]
    · rw [Bool.eq_iff_iff, contains_iff, contains_iff, values]

/-- A name in capitals finds the values of the name in mixed case, those of a field that was added
after the others among them. -/
theorem append_keeps_repeated_fields :
    let name : Text := "Accept".toList
    let capitals : Text := "ACCEPT".toList
    let front : Headers := ⟨[(name, ['a']), ("X-Trace".toList, ['1'])]⟩
    let back : Headers := .single "accept".toList ['b']
    capitals.map Char.toLower = name.map Char.toLower ∧
      (front ++ back).getAll capitals = [['a'], ['b']] ∧
      (front ++ back).getOr capitals none = some ['a'] ∧
      (front ++ back).contains capitals = true := by
  intro name capitals front back
  have same : capitals.map Char.toLower = name.map Char.toLower := by decide
  obtain ⟨-, -, -, -, -, letters, -⟩ :=
    append_keeps_fields (front ++ back) .empty .empty .absent name none (.given .absent)
  obtain ⟨values, first, occurs⟩ := letters capitals same
  exact ⟨same, values.trans rfl, first.trans rfl, occurs.trans rfl⟩

end Headers
end HttpAuth
