import HttpAuth.Text.Case

/-!
# Header fields

An ordered sequence of names and values.  A name may occur several times and keeps its spelling;
looking a name up ignores letter case.  Combining two sequences puts one after the other.
-/

namespace HttpAuth

/-- Header fields in order. -/
structure Headers where
  /-- Names and values. -/
  items : List (Text × Text) := []
  deriving Repr, DecidableEq

/-- Header fields in one of the forms in which they are given. -/
inductive HeaderSource where
  /-- None are given. -/
  | absent
  /-- Names and values in order; a name may occur several times. -/
  | fields (items : List (Text × Text))
  /-- One value for each of several names, in the order of the names. -/
  | table (entries : List (Text × Text))
  deriving Repr, DecidableEq

namespace Headers

/-- No header field. -/
def empty : Headers := ⟨[]⟩

/-- The header fields that are given. -/
def ofSource : HeaderSource → Headers
  | .absent => empty
  | .fields items => ⟨items⟩
  | .table entries => ⟨entries⟩

/-- A single header field. -/
def single (name value : Text) : Headers := ⟨[(name, value)]⟩

/-- There is no field. -/
def isEmpty (headers : Headers) : Bool :=
  headers.items.isEmpty

/-- The fields of one sequence followed by those of another, which is the result itself when one of
the two has no field. -/
instance : Append Headers where
  append left right :=
    if right.isEmpty then left
    else if left.isEmpty then right
    else ⟨left.items ++ right.items⟩

/-- The fields of a sequence followed by those that are given. -/
instance : HAppend Headers HeaderSource Headers where
  hAppend headers source := headers ++ ofSource source

/-- Append one field. -/
def add (headers : Headers) (name value : Text) : Headers :=
  headers ++ single name value

/-- Two names denote the same field. -/
def sameName (left right : Text) : Bool :=
  Text.lower left == Text.lower right

/-- All values of a name, in order. -/
def getAll (headers : Headers) (name : Text) : List Text :=
  (headers.items.filter fun item => sameName item.1 name).map Prod.snd

/-- The first value of a name. -/
def get? (headers : Headers) (name : Text) : Option Text :=
  (headers.items.find? fun item => sameName item.1 name).map Prod.snd

/-- The first value of a name, or a default when there is none. -/
def getOr (headers : Headers) (name : Text) (default : Option Text) : Option Text :=
  (headers.get? name).or default

/-- The name occurs. -/
def contains (headers : Headers) (name : Text) : Bool :=
  (headers.get? name).isSome

/-- The number of fields. -/
def size (headers : Headers) : Nat :=
  headers.items.length

/-- The names of the fields, between commas. -/
def nameList : List (Text × Text) → Text
  | [] => []
  | [item] => item.1
  | item :: next :: others => item.1 ++ ", ".toList ++ nameList (next :: others)

/-- A description that names the fields and leaves their values out, which may be secret. -/
def describe (headers : Headers) : Text :=
  "Headers([".toList ++ nameList headers.items ++ "])".toList

@[simp]
theorem items_append (left right : Headers) :
    (left ++ right).items = left.items ++ right.items := by
  have append_eq : left ++ right =
      if right.isEmpty then left
      else if left.isEmpty then right
      else ⟨left.items ++ right.items⟩ := rfl
  rw [append_eq]
  split
  · rename_i no_right
    rw [List.isEmpty_iff.mp no_right, List.append_nil]
  · split
    · rename_i no_left
      rw [List.isEmpty_iff.mp no_left, List.nil_append]
    · rfl

theorem append_empty (headers : Headers) : headers ++ empty = headers := rfl

theorem empty_append (headers : Headers) : empty ++ headers = headers := by
  obtain ⟨items⟩ := headers
  cases items <;> rfl

@[simp]
theorem items_empty : empty.items = [] := rfl

@[simp]
theorem items_single (name value : Text) : (single name value).items = [(name, value)] := rfl

/-- The values of a name in two sequences are those in the first and those in the second. -/
theorem getAll_append (left right : Headers) (name : Text) :
    (left ++ right).getAll name = left.getAll name ++ right.getAll name := by
  simp [getAll]

/-- The first value of a name heads the list of its values. -/
theorem get?_eq_head? (headers : Headers) (name : Text) :
    headers.get? name = (headers.getAll name).head? := by
  simp [get?, getAll, ← List.head?_filter]

end Headers
end HttpAuth
