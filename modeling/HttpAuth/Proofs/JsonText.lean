import HttpAuth.Proofs.Ascii
import HttpAuth.Proofs.JsonNumber
import HttpAuth.Proofs.JsonString

/-!
# The grammar of JSON texts

A text writes a value with any insignificant characters between the tokens.  Beside the grammar
stand the texts in which a reader goes beyond a limit before anything is wrong: at an integer with
too many digits, or at an array or object that is nested too deep.
-/

namespace HttpAuth
namespace Json

/-! ## Between the tokens -/

/-- The text consists of insignificant characters. -/
def Gap (text : Text) : Prop :=
  ∀ c ∈ text, c ∈ [' ', '\t', '\n', '\r']

/-- The text is a mark with insignificant characters around it. -/
def Mark (mark : Char) (text : Text) : Prop :=
  ∃ before after, Gap before ∧ Gap after ∧ text = before ++ mark :: after

variable {gap text rest : Text} {c mark : Char}

theorem skip_gap (blank : Gap gap) (text : Text) : skip (gap ++ text) = skip text :=
  List.dropWhile_append_of_pos fun c member => isSpace_iff.mpr (blank c member)

theorem skip_cons (visible : isSpace c = false) (rest : Text) : skip (c :: rest) = c :: rest := by
  simp [skip, visible]

theorem Mark.length_pos {form : Text} (is_mark : Mark mark form) : 0 < form.length := by
  obtain ⟨before, after, -, -, rfl⟩ := is_mark
  rw [List.length_append, List.length_cons]
  omega

theorem skip_gap_cons (blank : Gap gap) (visible : isSpace c = false) (rest : Text) :
    skip (gap ++ c :: rest) = c :: rest := by
  rw [skip_gap blank, skip_cons visible]

/-! ## Written forms -/

/-- The parts that a text is made of. -/
inductive Part where
  /-- A value. -/
  | value
  /-- The items of an array and the bracket that closes it. -/
  | items
  /-- The members of an object and the brace that closes it. -/
  | members

/-- What a part writes. -/
abbrev Part.Meaning : Part → Type
  | .value => Json
  | .items => List Json
  | .members => List (CodePoints × Json)

/-- The written forms of a part. -/
inductive Written : (part : Part) → part.Meaning → Text → Prop where
  /-- A word. -/
  | word {value : Json} {form : Text}
      (listed : (form, value) ∈ [("null".toList, .null), ("true".toList, .bool true),
        ("false".toList, .bool false), ("NaN".toList, .decimal .nan),
        ("Infinity".toList, .decimal (.infinite false)),
        ("-Infinity".toList, .decimal (.infinite true))]) : Written .value value form
  /-- A number. -/
  | number (numeral : Numeral) : Written .value numeral.value numeral.text
  /-- A string. -/
  | string {codes : CodePoints} {form : Text} (quoted : Quoted codes form) :
      Written .value (.string codes) form
  /-- An array without items. -/
  | emptyArray {gap : Text} (blank : Gap gap) : Written .value (.array []) ('[' :: (gap ++ [']']))
  /-- An array with items. -/
  | array {items : List Json} {gap form : Text} (blank : Gap gap)
      (inside : Written .items items form) : Written .value (.array items) ('[' :: (gap ++ form))
  /-- An object without members. -/
  | emptyObject {gap : Text} (blank : Gap gap) :
      Written .value (.object []) ('{' :: (gap ++ ['}']))
  /-- An object with members. -/
  | object {members : List (CodePoints × Json)} {gap form : Text} (blank : Gap gap)
      (inside : Written .members members form) :
      Written .value (.object members) ('{' :: (gap ++ form))
  /-- The last item. -/
  | item {item : Json} {form gap : Text} (item_form : Written .value item form) (blank : Gap gap) :
      Written .items [item] (form ++ (gap ++ [']']))
  /-- An item and more items. -/
  | items {item : Json} {items : List Json} {form comma more : Text}
      (item_form : Written .value item form) (comma_mark : Mark ',' comma)
      (later : Written .items items more) :
      Written .items (item :: items) (form ++ (comma ++ more))
  /-- The last member. -/
  | member {name : CodePoints} {value : Json} {name_form colon form gap : Text}
      (name_quoted : Quoted name name_form) (colon_mark : Mark ':' colon)
      (value_form : Written .value value form) (blank : Gap gap) :
      Written .members [(name, value)] (name_form ++ (colon ++ (form ++ (gap ++ ['}']))))
  /-- A member and more members. -/
  | members {name : CodePoints} {value : Json} {members : List (CodePoints × Json)}
      {name_form colon form comma more : Text} (name_quoted : Quoted name name_form)
      (colon_mark : Mark ':' colon) (value_form : Written .value value form)
      (comma_mark : Mark ',' comma) (later : Written .members members more) :
      Written .members ((name, value) :: members)
        (name_form ++ (colon ++ (form ++ (comma ++ more))))

/-- The texts that begin like a part and go on to an excess, when so many levels are left for arrays
and objects. -/
inductive Exceeds : Excess → Nat → Part → Text → Prop where
  /-- The value is an integer with too many digits. -/
  | integer {levels : Nat} {numeral : Numeral} {rest : Text} (integer : numeral.isInteger = true)
      (long : 4300 < numeral.whole.length) (ends : numeral.EndsBefore rest) :
      Exceeds (.digits numeral.whole.length) levels .value (numeral.text ++ rest)
  /-- No level is left for the array. -/
  | fullArray {rest : Text} : Exceeds .array 0 .value ('[' :: rest)
  /-- No level is left for the object. -/
  | fullObject {rest : Text} : Exceeds .object 0 .value ('{' :: rest)
  /-- The excess is in an array. -/
  | array {excess : Excess} {levels : Nat} {gap text : Text} (blank : Gap gap)
      (inside : Exceeds excess levels .items text) :
      Exceeds excess (levels + 1) .value ('[' :: (gap ++ text))
  /-- The excess is in an object. -/
  | object {excess : Excess} {levels : Nat} {gap text : Text} (blank : Gap gap)
      (inside : Exceeds excess levels .members text) :
      Exceeds excess (levels + 1) .value ('{' :: (gap ++ text))
  /-- The excess is in this item. -/
  | item {excess : Excess} {levels : Nat} {text : Text}
      (inside : Exceeds excess levels .value text) : Exceeds excess levels .items text
  /-- The excess is behind this item. -/
  | items {excess : Excess} {levels : Nat} {item : Json} {form comma text : Text}
      (item_form : Written .value item form) (comma_mark : Mark ',' comma)
      (inside : Exceeds excess levels .items text) :
      Exceeds excess levels .items (form ++ (comma ++ text))
  /-- The excess is in this member. -/
  | member {excess : Excess} {levels : Nat} {name : CodePoints} {name_form colon text : Text}
      (name_quoted : Quoted name name_form) (colon_mark : Mark ':' colon)
      (inside : Exceeds excess levels .value text) :
      Exceeds excess levels .members (name_form ++ (colon ++ text))
  /-- The excess is behind this member. -/
  | members {excess : Excess} {levels : Nat} {name : CodePoints} {value : Json}
      {name_form colon form comma text : Text} (name_quoted : Quoted name name_form)
      (colon_mark : Mark ':' colon) (value_form : Written .value value form)
      (comma_mark : Mark ',' comma) (inside : Exceeds excess levels .members text) :
      Exceeds excess levels .members (name_form ++ (colon ++ (form ++ (comma ++ text))))

/-- The text begins like one that writes a value and goes on to the excess. -/
def ExceedingDocument (excess : Excess) (levels : Nat) (text : Text) : Prop :=
  ∃ before form, Gap before ∧ Exceeds excess levels .value form ∧ text = before ++ form

/-! ## The first character -/

/-- The character may begin a part: it is neither insignificant nor a closing bracket nor a byte
order mark. -/
def Opens (c : Char) : Prop :=
  c ∉ [' ', '\t', '\n', '\r', ']', '}', Char.ofNat 0xFEFF]

instance : DecidablePred Opens :=
  fun _ => inferInstanceAs (Decidable (¬_))

theorem Opens.visible (opens : Opens c) : isSpace c = false := by
  simp only [Opens, List.mem_cons, not_or] at opens
  simp [isSpace, opens]

/-- The text begins with a character that may begin a part. -/
def Begins (text : Text) : Prop :=
  ∃ c rest, text = c :: rest ∧ Opens c

theorem Begins.append (begins : Begins text) (rest : Text) : Begins (text ++ rest) := by
  obtain ⟨c, others, rfl, opens⟩ := begins
  exact ⟨c, others ++ rest, rfl, opens⟩

theorem Begins.skip_eq (begins : Begins text) : skip text = text := by
  obtain ⟨c, others, rfl, opens⟩ := begins
  exact skip_cons opens.visible others

theorem Begins.head_ne (begins : Begins text) (closing : ¬Opens mark) :
    text.head? ≠ some mark := by
  obtain ⟨c, others, rfl, opens⟩ := begins
  rintro ⟨⟩
  exact closing opens

/-- A mark before a part is found, and then the part. -/
theorem Mark.skip_append {form : Text} (is_mark : Mark mark form) (visible : isSpace mark = false)
    (begins : Begins text) : ∃ next, skip (form ++ text) = mark :: next ∧ skip next = text := by
  obtain ⟨before, after, before_blank, after_blank, rfl⟩ := is_mark
  refine ⟨after ++ text, ?_, ?_⟩
  · rw [List.append_assoc, List.cons_append, skip_gap_cons before_blank visible]
  · rw [skip_gap after_blank, begins.skip_eq]

theorem word_start {value : Json} {form : Text} (listed : (form, value) ∈ words) :
    ∃ c rest, form = c :: rest ∧ c ∈ ['n', 't', 'f', 'N', 'I', '-'] := by
  simp only [words, List.mem_cons, Prod.mk.injEq, List.not_mem_nil, or_false] at listed
  rcases listed with ⟨rfl, -⟩ | ⟨rfl, -⟩ | ⟨rfl, -⟩ | ⟨rfl, -⟩ | ⟨rfl, -⟩ | ⟨rfl, -⟩ <;>
    exact ⟨_, _, rfl, by decide⟩

theorem Numeral.text_start (numeral : Numeral) :
    ∃ c rest, numeral.text = c :: rest ∧ (c = '-' ∨ c.isDigit = true) := by
  cases sign : numeral.negative with
  | true => exact ⟨'-', _, by rw [Numeral.text, sign]; rfl, .inl rfl⟩
  | false =>
      obtain ⟨d, others, whole_eq⟩ := List.exists_cons_of_ne_nil numeral.whole_filled
      refine ⟨d, _, by rw [Numeral.text, sign, whole_eq]; rfl, .inr ?_⟩
      exact numeral.whole_digits d (whole_eq ▸ List.mem_cons_self)

theorem Numeral.begins (numeral : Numeral) : Begins numeral.text := by
  obtain ⟨c, rest, text_eq, start⟩ := numeral.text_start
  refine ⟨c, rest, text_eq, ?_⟩
  rcases start with rfl | digit
  · decide
  · have none_digit : ∀ c ∈ [' ', '\t', '\n', '\r', ']', '}', Char.ofNat 0xFEFF],
        c.isDigit = false := Text.forall_listed (·.isDigit = false) (by decide)
    intro listed
    rw [none_digit c listed] at digit
    cases digit

theorem Quoted.begins {codes : CodePoints} (quoted : Quoted codes text) : Begins text := by
  obtain ⟨form, -, rfl⟩ := quoted
  exact ⟨'"', _, rfl, by decide⟩

theorem Written.begins {part : Part} {meaning : part.Meaning}
    (form : Written part meaning text) : Begins text := by
  induction form with
  | word listed =>
      obtain ⟨c, rest, word_eq, letter⟩ := word_start listed
      exact ⟨c, rest, word_eq, Text.forall_listed Opens (by decide) c letter⟩
  | number numeral => exact numeral.begins
  | string quoted => exact quoted.begins
  | emptyArray => exact ⟨'[', _, rfl, by decide⟩
  | array => exact ⟨'[', _, rfl, by decide⟩
  | emptyObject => exact ⟨'{', _, rfl, by decide⟩
  | object => exact ⟨'{', _, rfl, by decide⟩
  | item _ _ induction => exact induction.append _
  | items _ _ _ induction _ => exact induction.append _
  | member name_quoted => exact name_quoted.begins.append _
  | members name_quoted => exact name_quoted.begins.append _

theorem Exceeds.begins {excess : Excess} {levels : Nat} {part : Part}
    (exceeds : Exceeds excess levels part text) : Begins text := by
  induction exceeds with
  | integer => exact (Numeral.begins _).append _
  | fullArray | array => exact ⟨'[', _, rfl, by decide⟩
  | fullObject | object => exact ⟨'{', _, rfl, by decide⟩
  | item _ induction => exact induction
  | items item_form => exact item_form.begins.append _
  | member name_quoted => exact name_quoted.begins.append _
  | members name_quoted => exact name_quoted.begins.append _

end Json
end HttpAuth
