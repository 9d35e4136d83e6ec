import HttpAuth.Json.Parser

/-!
# Strings of JSON texts

A code point of a string stands for itself, or it is written as an escape with a letter, with four
hexadecimal digits or with a pair of such escapes.  Exactly these strings are read, and the code
points are those that the string writes.
-/

namespace HttpAuth
namespace Json

/-! ## Written forms -/

/-- The four hexadecimal digits of a number. -/
inductive Quad : Nat → Text → Prop where
  /-- The first digit counts most. -/
  | digits {a b c d : Char} {w x y z : Nat} (first : Hex.value? a = some w)
      (second : Hex.value? b = some x) (third : Hex.value? c = some y)
      (fourth : Hex.value? d = some z) :
      Quad (((w * 16 + x) * 16 + y) * 16 + z) [a, b, c, d]

/-- The written forms of a code point. -/
inductive CodeForm : Nat → Text → Prop where
  /-- The character itself, unless it is a control character, a quote or a backslash. -/
  | plain {c : Char} (printable : 0x20 ≤ c.toNat) (bare : c ≠ '"' ∧ c ≠ '\\') :
      CodeForm c.toNat [c]
  /-- An escape with a letter. -/
  | letter {letter : Char} {code : Nat} (listed : (letter, code) ∈ [('"', 0x22), ('\\', 0x5C),
      ('/', 0x2F), ('b', 0x08), ('f', 0x0C), ('n', 0x0A), ('r', 0x0D), ('t', 0x09)]) :
      CodeForm code ['\\', letter]
  /-- An escape with four digits. -/
  | numeric {code : Nat} {digits : Text} (quad : Quad code digits) :
      CodeForm code ('\\' :: 'u' :: digits)
  /-- Two escapes with the halves of a surrogate pair. -/
  | pair {high low : Nat} {high_digits low_digits : Text} (high_quad : Quad high high_digits)
      (low_quad : Quad low low_digits) (is_high : isHighSurrogate high = true)
      (is_low : isLowSurrogate low = true) :
      CodeForm (0x10000 + (high - 0xD800) * 0x400 + (low - 0xDC00))
        ('\\' :: 'u' :: (high_digits ++ '\\' :: 'u' :: low_digits))

/-- The written forms of code points.  The halves of a surrogate pair do not follow one another as
two code points, because together they write one. -/
inductive CodesForm : CodePoints → Text → Prop where
  /-- Nothing. -/
  | nil : CodesForm [] []
  /-- A code point and more code points. -/
  | cons {code : Nat} {codes : CodePoints} {form text : Text} (first : CodeForm code form)
      (later : CodesForm codes text)
      (apart : isHighSurrogate code = true → ∀ next ∈ codes.head?, isLowSurrogate next = false) :
      CodesForm (code :: codes) (form ++ text)

/-- A string between its quotes. -/
def Quoted (codes : CodePoints) (text : Text) : Prop :=
  ∃ form, CodesForm codes form ∧ text = '"' :: (form ++ ['"'])

/-! ## Readers in sequence -/

section Bind

variable {α β : Type} {result : Except Stop α} {next : α → Except Stop β}

theorem bind_eq_error {stop : Stop} (failed : result >>= next = .error stop) :
    result = .error stop ∨ ∃ a, result = .ok a ∧ next a = .error stop := by
  cases result with
  | error other =>
      cases failed
      exact .inl rfl
  | ok a => exact .inr ⟨a, rfl, failed⟩

end Bind

/-! ## Four digits -/

variable {code : Nat} {codes : CodePoints} {digits form rest tail text : Text}

theorem Quad.quad?_append (quad : Quad code digits) (rest : Text) :
    quad? (digits ++ rest) = some code := by
  cases quad with
  | digits first second third fourth => simp [quad?, first, second, third, fourth]

theorem Quad.length_eq (quad : Quad code digits) : digits.length = 4 := by
  cases quad
  rfl

theorem Quad.drop_append (quad : Quad code digits) (rest : Text) :
    (digits ++ rest).drop 4 = rest := by
  rw [← quad.length_eq, List.drop_left]

/-- What follows a code point does not form a surrogate pair with it. -/
def Unpaired (code : Nat) (tail : Text) : Prop :=
  isHighSurrogate code = true → startsEscape tail = true →
    ∃ low, quad? (tail.drop 2) = some low ∧ isLowSurrogate low = false

theorem isHighSurrogate_eq_false :
    isHighSurrogate code = false ↔ code < 0xD800 ∨ 0xDBFF < code := by
  simp only [isHighSurrogate, Bool.and_eq_false_iff, decide_eq_false_iff_not, Nat.not_le]

theorem isLowSurrogate_eq_false :
    isLowSurrogate code = false ↔ code < 0xDC00 ∨ 0xDFFF < code := by
  simp only [isLowSurrogate, Bool.and_eq_false_iff, decide_eq_false_iff_not, Nat.not_le]

/-- A pair denotes none of the halves of a pair. -/
theorem not_surrogate_join (high low : Nat) :
    isHighSurrogate (joinSurrogates high low) = false ∧
      isLowSurrogate (joinSurrogates high low) = false := by
  have large : 0x10000 ≤ joinSurrogates high low :=
    Nat.le_trans (Nat.le_add_right _ _) (Nat.le_add_right _ _)
  rw [isHighSurrogate_eq_false, isLowSurrogate_eq_false]
  omega

theorem not_low_of_high (is_high : isHighSurrogate code = true) :
    isLowSurrogate code = false := by
  have not_low : ¬(code < 0xD800 ∨ 0xDBFF < code) := by
    rw [← isHighSurrogate_eq_false, is_high]
    exact Bool.noConfusion
  rw [isLowSurrogate_eq_false]
  omega

/-- No character is a half of a surrogate pair. -/
theorem not_surrogate (c : Char) :
    isHighSurrogate c.toNat = false ∧ isLowSurrogate c.toNat = false := by
  have valid : c.toNat.isValidChar := c.valid
  rw [Nat.isValidChar] at valid
  rw [isHighSurrogate_eq_false, isLowSurrogate_eq_false]
  omega

theorem escaped?_eq_some_iff {letter : Char} :
    escaped? letter = some code ↔ (letter, code) ∈ [('"', 0x22), ('\\', 0x5C), ('/', 0x2F),
      ('b', 0x08), ('f', 0x0C), ('n', 0x0A), ('r', 0x0D), ('t', 0x09)] := by
  constructor
  · intro escape
    simp only [escaped?] at escape
    split at escape <;> cases escape <;> decide
  · simp only [List.mem_cons, Prod.mk.injEq, List.not_mem_nil, or_false]
    rintro (⟨rfl, rfl⟩ | ⟨rfl, rfl⟩ | ⟨rfl, rfl⟩ | ⟨rfl, rfl⟩ | ⟨rfl, rfl⟩ | ⟨rfl, rfl⟩ |
      ⟨rfl, rfl⟩ | ⟨rfl, rfl⟩) <;> rfl

/-- No letter of an escape denotes a half of a surrogate pair. -/
theorem not_surrogate_of_escaped {letter : Char} (escape : escaped? letter = some code) :
    isHighSurrogate code = false ∧ isLowSurrogate code = false := by
  simp only [escaped?] at escape
  split at escape <;> cases escape <;> decide

theorem startsEscape_iff :
    startsEscape tail = true ↔ ∃ rest, tail = '\\' :: 'u' :: rest ∧ 4 < rest.length := by
  match tail with
  | [] => simp [startsEscape]
  | [c] => simp [startsEscape]
  | c :: d :: rest => simp [startsEscape, and_assoc]

theorem Quad.startsEscape (quad : Quad code digits) (filled : rest ≠ []) :
    startsEscape ('\\' :: 'u' :: (digits ++ rest)) = true := by
  have long := List.length_pos_iff.mpr filled
  exact startsEscape_iff.mpr ⟨_, rfl, by rw [List.length_append, quad.length_eq]; omega⟩

theorem numericEscape_single (quad : Quad code digits) (filled : tail ≠ [])
    (unpaired : Unpaired code tail) :
    numericEscape ('u' :: (digits ++ tail)) = .ok (code, tail) := by
  have after : ('u' :: (digits ++ tail)).drop 5 = tail := quad.drop_append tail
  have filled : tail.isEmpty = false := List.isEmpty_eq_false_iff.mpr filled
  simp only [numericEscape, after, List.drop_one, List.tail_cons, quad.quad?_append, filled]
  by_cases paired : isHighSurrogate code = true ∧ startsEscape tail = true
  · obtain ⟨low, found, not_low⟩ := unpaired paired.1 paired.2
    simp [paired, found, not_low]
  · simp only [← Bool.and_eq_true] at paired
    simp [paired]

theorem numericEscape_pair {high low : Nat} {high_digits low_digits : Text}
    (high_quad : Quad high high_digits) (low_quad : Quad low low_digits)
    (is_high : isHighSurrogate high = true) (is_low : isLowSurrogate low = true)
    (filled : tail ≠ []) :
    numericEscape ('u' :: (high_digits ++ '\\' :: 'u' :: (low_digits ++ tail))) =
      .ok (joinSurrogates high low, tail) := by
  have after : ('u' :: (high_digits ++ '\\' :: 'u' :: (low_digits ++ tail))).drop 5 =
      '\\' :: 'u' :: (low_digits ++ tail) := high_quad.drop_append _
  have starts := low_quad.startsEscape filled
  have last : ('\\' :: 'u' :: (low_digits ++ tail)).drop 6 = tail := low_quad.drop_append tail
  simp [numericEscape, after, high_quad.quad?_append, low_quad.quad?_append, is_high, is_low,
    starts, last]

/-- A written code point is read from the start of a text that goes on. -/
theorem CodeForm.stringUnit_eq (form_of : CodeForm code form) (filled : tail ≠ [])
    (unpaired : Unpaired code tail) (opening : Text) :
    stringUnit opening (form ++ tail) = .ok (code, tail) := by
  cases form_of with
  | plain printable bare =>
      simp [stringUnit, bare.2, Nat.not_lt.mpr printable]
  | letter listed =>
      have escape := escaped?_eq_some_iff.mpr listed
      have other : ∀ {c : Char}, escaped? c = some code → c ≠ 'u' := by
        rintro c escape rfl
        cases escape
      simp [stringUnit, other escape, escape]
  | numeric quad =>
      simp [stringUnit, numericEscape_single quad filled unpaired]
  | pair high_quad low_quad is_high is_low =>
      simp only [List.cons_append, List.append_assoc]
      exact numericEscape_pair high_quad low_quad is_high is_low filled

theorem CodeForm.head_ne (form_of : CodeForm code form) :
    ∃ c rest, form = c :: rest ∧ c ≠ '"' := by
  cases form_of with
  | plain _ bare => exact ⟨_, _, rfl, bare.1⟩
  | letter => exact ⟨_, _, rfl, by decide⟩
  | numeric => exact ⟨_, _, rfl, by decide⟩
  | pair => exact ⟨_, _, rfl, by decide⟩

/-- When a numeric escape follows, it is the first code point or the first half of a pair. -/
theorem CodesForm.quad?_of_startsEscape (form_of : CodesForm codes text)
    (starts : startsEscape (text ++ '"' :: rest) = true) :
    ∃ code, quad? ((text ++ '"' :: rest).drop 2) = some code ∧
      (isLowSurrogate code = true → codes.head? = some code) := by
  obtain ⟨escape, text_eq, -⟩ := startsEscape_iff.mp starts
  cases form_of with
  | nil => cases text_eq
  | cons first later apart =>
      cases first with
      | plain _ bare => exact absurd (List.cons.inj text_eq).1 bare.2
      | letter listed =>
          obtain rfl := (List.cons.inj (List.cons.inj text_eq).2).1
          cases escaped?_eq_some_iff.mpr listed
      | numeric quad =>
          refine ⟨_, ?_, fun _ => rfl⟩
          simp [quad.quad?_append]
      | @pair high low high_digits low_digits high_quad low_quad is_high is_low =>
          refine ⟨high, ?_, fun low => ?_⟩
          · simp [high_quad.quad?_append]
          · rw [not_low_of_high is_high] at low
            cases low

/-- The second half of a pair that stands for itself is written as a numeric escape. -/
theorem CodesForm.quad?_of_low (form_of : CodesForm (code :: codes) text)
    (is_low : isLowSurrogate code = true) (rest : Text) :
    startsEscape (text ++ '"' :: rest) = true ∧
      quad? ((text ++ '"' :: rest).drop 2) = some code := by
  have other (not_low : isLowSurrogate code = false) : False := by
    rw [not_low] at is_low
    cases is_low
  cases form_of with
  | @cons _ _ form text first later apart =>
      cases first with
      | @plain c => exact (other (not_surrogate c).2).elim
      | letter listed =>
          exact (other (not_surrogate_of_escaped (escaped?_eq_some_iff.mpr listed)).2).elim
      | numeric quad =>
          have filled : text ++ '"' :: rest ≠ [] := by simp
          simp only [List.cons_append, List.append_assoc]
          exact ⟨quad.startsEscape filled, quad.quad?_append _⟩
      | pair => exact (other (not_surrogate_join _ _).2).elim

/-- A code point forms no pair with the code points behind it when they do not begin with the second
half. -/
theorem CodesForm.unpaired_iff (form_of : CodesForm codes text) (rest : Text) :
    Unpaired code (text ++ '"' :: rest) ↔
      (isHighSurrogate code = true → ∀ next ∈ codes.head?, isLowSurrogate next = false) := by
  constructor
  · intro unpaired is_high next head
    cases codes with
    | nil => cases head
    | cons first codes =>
        obtain rfl := Option.some.inj head
        refine Bool.eq_false_iff.mpr fun is_low => ?_
        obtain ⟨starts, found⟩ := form_of.quad?_of_low is_low rest
        obtain ⟨low, low_found, not_low⟩ := unpaired is_high starts
        obtain rfl := Option.some.inj (found.symm.trans low_found)
        rw [is_low] at not_low
        cases not_low
  · intro apart is_high starts
    obtain ⟨low, found, head_of_low⟩ := form_of.quad?_of_startsEscape starts
    refine ⟨low, found, Bool.eq_false_iff.mpr fun is_low => ?_⟩
    have not_low := apart is_high low (head_of_low is_low)
    rw [is_low] at not_low
    cases not_low

/-! ## Whole strings -/

theorem CodesForm.length_le (form_of : CodesForm codes text) : codes.length ≤ text.length := by
  induction form_of with
  | nil => exact Nat.le_refl 0
  | cons first _ _ induction =>
      obtain ⟨c, rest, rfl, -⟩ := first.head_ne
      simp only [List.length_cons, List.length_append]
      omega

theorem CodesForm.stringRest_eq {bound : Nat} {opening : Text} (form_of : CodesForm codes text)
    (enough : codes.length < bound) (rest : Text) :
    stringRest opening bound (text ++ '"' :: rest) = .ok (codes, rest) := by
  induction form_of generalizing bound with
  | nil =>
      obtain ⟨bound, rfl⟩ := Nat.exists_eq_add_one.mpr enough
      rfl
  | @cons code codes form text first later apart induction =>
      obtain ⟨bound, rfl⟩ := Nat.exists_eq_add_one.mpr (Nat.zero_lt_of_lt enough)
      obtain ⟨c, form_rest, form_eq, other⟩ := first.head_ne
      have filled : text ++ '"' :: rest ≠ [] := by simp
      have unclosed : (form ++ (text ++ '"' :: rest)).head? ≠ some '"' := by
        simpa [form_eq] using other
      rw [List.append_assoc, stringRest, if_neg unclosed,
        first.stringUnit_eq filled ((later.unpaired_iff rest).mpr apart) opening]
      change (stringRest opening bound (text ++ '"' :: rest) >>= _) = _
      rw [induction (Nat.lt_of_succ_lt_succ enough)]
      rfl

theorem Quoted.head?_append (quoted : Quoted codes text) (rest : Text) :
    (text ++ rest).head? = some '"' := by
  obtain ⟨form, -, rfl⟩ := quoted
  rfl

/-- A string is read from the start of any text. -/
theorem Quoted.quotedString_eq {bound : Nat} (quoted : Quoted codes text)
    (enough : text.length ≤ bound) (rest : Text) :
    quotedString bound (text ++ rest) = .ok (codes, rest) := by
  obtain ⟨form, codes_form, rfl⟩ := quoted
  have inside : ('"' :: (form ++ ['"']) ++ rest).drop 1 = form ++ '"' :: rest := by simp
  have short := codes_form.length_le
  simp only [List.length_cons, List.length_append, List.length_nil] at enough
  rw [quotedString, inside, codes_form.stringRest_eq (by omega)]

/-- Nothing but a fault stops the reading. -/
def OnlyFaults {α : Type} (result : Except Stop α) : Prop :=
  ∀ stop, result = .error stop → ∃ fault rest, stop = .fault fault rest

section OnlyFaults

variable {α β : Type}

theorem OnlyFaults.bind {result : Except Stop α} {next : α → Except Stop β}
    (first : OnlyFaults result) (later : ∀ a, OnlyFaults (next a)) :
    OnlyFaults (result >>= next) := by
  intro stop failed
  rcases bind_eq_error failed with failed | ⟨a, -, failed⟩
  · exact first stop failed
  · exact later a stop failed

end OnlyFaults

end Json
end HttpAuth
