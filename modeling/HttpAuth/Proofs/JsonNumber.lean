import HttpAuth.Json.Parser

/-!
# Numbers of JSON texts

A number has digits without a leading zero, and it may have a sign, a fraction and an exponent.  The
reader takes the longest number that a text begins with, so that a number is read back wherever
nothing behind it continues it.
-/

namespace HttpAuth
namespace Json

/-! ## Written forms -/

/-- The text consists of digits. -/
def Digits (text : Text) : Prop :=
  ∀ c ∈ text, c.isDigit = true

/-- The text does not begin with a digit. -/
def NoDigit (text : Text) : Prop :=
  ∀ c ∈ text.head?, c.isDigit = false

/-- The exponent of a number. -/
structure Exponent where
  /-- The letter that begins it. -/
  mark : Char
  /-- The sign, which may be missing. -/
  sign : Text
  /-- The digits. -/
  digits : Text
  mark_letter : mark = 'e' ∨ mark = 'E'
  sign_listed : sign ∈ [[], ['+'], ['-']]
  digits_filled : digits ≠ []
  all_digits : Digits digits

/-- The text of an exponent. -/
def Exponent.text (exponent : Exponent) : Text :=
  exponent.mark :: (exponent.sign ++ exponent.digits)

/-- The value of an exponent. -/
def Exponent.value (exponent : Exponent) : Int :=
  if exponent.sign = ['-'] then
    -(Text.digitsValue exponent.digits : Int)
  else
    (Text.digitsValue exponent.digits : Int)

/-- A number as it is written. -/
structure Numeral where
  /-- There is a minus sign. -/
  negative : Bool
  /-- The digits before the fraction. -/
  whole : Text
  /-- The digits of the fraction, none when there is no fraction. -/
  fraction : Text
  /-- The exponent. -/
  exponent : Option Exponent
  whole_filled : whole ≠ []
  whole_digits : Digits whole
  no_leading_zero : whole.head? = some '0' → whole = ['0']
  fraction_digits : Digits fraction

namespace Numeral

/-- The text of the fraction of a number. -/
def fractionText (numeral : Numeral) : Text :=
  if numeral.fraction = [] then [] else '.' :: numeral.fraction

/-- The text of the exponent of a number. -/
def exponentText (numeral : Numeral) : Text :=
  numeral.exponent.elim [] Exponent.text

/-- The text of a number. -/
def text (numeral : Numeral) : Text :=
  (if numeral.negative then ['-'] else []) ++
    (numeral.whole ++ (numeral.fractionText ++ numeral.exponentText))

/-- The number has neither a fraction nor an exponent. -/
def isInteger (numeral : Numeral) : Bool :=
  numeral.fraction.isEmpty && numeral.exponent.isNone

/-- The value of a number. -/
def value (numeral : Numeral) : Json :=
  if numeral.isInteger then
    let magnitude : Int := Text.digitsValue numeral.whole
    .integer (if numeral.negative then -magnitude else magnitude)
  else
    .decimal (.ofDecimal numeral.negative (Text.digitsValue (numeral.whole ++ numeral.fraction))
      ((numeral.exponent.map Exponent.value).getD 0 - numeral.fraction.length))

/-- Nothing at the start of the text continues the number. -/
structure EndsBefore (numeral : Numeral) (rest : Text) : Prop where
  no_digit : numeral.whole = ['0'] ∧ numeral.isInteger = true ∨ NoDigit rest
  no_fraction : numeral.isInteger = true → ∀ d, d.isDigit = true → ¬['.', d] <+: rest
  no_exponent : numeral.exponent = none → ∀ exponent : Exponent, ¬exponent.text <+: rest

end Numeral

/-! ## Digits -/

variable {digits rest tail text : Text}

theorem NoDigit.takeWhile_append (all_digits : Digits digits) (stop : NoDigit rest) :
    (digits ++ rest).takeWhile Char.isDigit = digits := by
  rw [List.takeWhile_append_of_pos all_digits]
  cases rest with
  | nil => simp
  | cons c rest => simp [stop c rfl]

theorem NoDigit.dropWhile_append (all_digits : Digits digits) (stop : NoDigit rest) :
    (digits ++ rest).dropWhile Char.isDigit = rest := by
  rw [List.dropWhile_append_of_pos all_digits]
  cases rest with
  | nil => rfl
  | cons c rest => simp [stop c rfl]

theorem digits_takeWhile (text : Text) : Digits (text.takeWhile Char.isDigit) :=
  fun c member => List.all_eq_true.mp List.all_takeWhile c member

theorem noDigit_dropWhile (text : Text) : NoDigit (text.dropWhile Char.isDigit) := by
  intro c head
  have start := List.head?_dropWhile_not Char.isDigit text
  rw [show (text.dropWhile Char.isDigit).head? = some c from head] at start
  simpa using start

/-! ## Exponents -/

theorem signed_append {sign : Text} (listed : sign ∈ [[], ['+'], ['-']]) (filled : digits ≠ [])
    (all_digits : Digits digits) (rest : Text) :
    Literal.signed (sign ++ (digits ++ rest)) = (decide (sign = ['-']), digits ++ rest) := by
  simp only [List.mem_cons, List.not_mem_nil, or_false] at listed
  rcases listed with rfl | rfl | rfl
  · obtain ⟨d, others, rfl⟩ := List.exists_cons_of_ne_nil filled
    have digit := all_digits d List.mem_cons_self
    rw [List.nil_append, List.cons_append, Literal.signed.eq_def]
    split
    · rename_i same
      obtain ⟨rfl, -⟩ := List.cons.inj same
      cases digit
    · rename_i same
      obtain ⟨rfl, -⟩ := List.cons.inj same
      cases digit
    · rfl
  · rfl
  · rfl

theorem exists_sign (text : Text) :
    ∃ sign, sign ∈ [[], ['+'], ['-']] ∧ text = sign ++ (Literal.signed text).2 ∧
      (Literal.signed text).1 = decide (sign = ['-']) := by
  rw [Literal.signed.eq_def]
  split
  · exact ⟨['-'], by decide, rfl, rfl⟩
  · exact ⟨['+'], by decide, rfl, rfl⟩
  · exact ⟨[], by decide, rfl, rfl⟩

theorem Exponent.exponentPart_eq (exponent : Exponent) (stop : NoDigit rest) :
    exponentPart (exponent.text ++ rest) = (some exponent.value, rest) := by
  have signed := signed_append exponent.sign_listed exponent.digits_filled exponent.all_digits rest
  have kept := stop.takeWhile_append exponent.all_digits
  have left := stop.dropWhile_append exponent.all_digits
  have filled : exponent.digits.isEmpty = false :=
    List.isEmpty_eq_false_iff.mpr exponent.digits_filled
  simp [exponentPart, Exponent.text, Exponent.value, signed, kept, left, filled,
    exponent.mark_letter]

/-- The exponent that is read is written at the start of the text. -/
theorem exponentPart_cases (text : Text) :
    (exponentPart text = (none, text) ∧ ∀ exponent : Exponent, ¬exponent.text <+: text) ∨
      ∃ (exponent : Exponent) (rest : Text), text = exponent.text ++ rest ∧ NoDigit rest ∧
        exponentPart text = (some exponent.value, rest) := by
  cases text with
  | nil => exact .inl ⟨rfl, fun exponent => by simp [Exponent.text]⟩
  | cons mark body =>
      obtain ⟨sign, listed, body_eq, -⟩ := exists_sign body
      by_cases written : (mark = 'e' ∨ mark = 'E') ∧
          (Literal.signed body).2.takeWhile Char.isDigit ≠ []
      · let exponent : Exponent :=
          { mark, sign, digits := (Literal.signed body).2.takeWhile Char.isDigit
            mark_letter := written.1, sign_listed := listed, digits_filled := written.2
            all_digits := digits_takeWhile _ }
        have stop := noDigit_dropWhile (Literal.signed body).2
        have whole : mark :: body =
            exponent.text ++ (Literal.signed body).2.dropWhile Char.isDigit := by
          rw [Exponent.text, List.cons_append, List.append_assoc, List.takeWhile_append_dropWhile,
            ← body_eq]
        exact .inr ⟨exponent, _, whole, stop, whole ▸ exponent.exponentPart_eq stop⟩
      · refine .inl ⟨?_, ?_⟩
        · simp only [exponentPart, Bool.not_eq_true', List.isEmpty_eq_false_iff]
          rw [if_neg written]
        · rintro exponent ⟨rest, whole⟩
          rw [Exponent.text, List.cons_append, List.append_assoc] at whole
          obtain ⟨rfl, rfl⟩ := List.cons.inj whole
          refine written ⟨exponent.mark_letter, ?_⟩
          rw [signed_append exponent.sign_listed exponent.digits_filled exponent.all_digits]
          obtain ⟨d, others, digits_eq⟩ := List.exists_cons_of_ne_nil exponent.digits_filled
          have digit := exponent.all_digits d (digits_eq ▸ List.mem_cons_self)
          simp [digits_eq, digit]

/-! ## Fractions -/

theorem fractionPart_append (all_digits : Digits digits) (filled : digits ≠ [])
    (stop : NoDigit rest) : fractionPart ('.' :: (digits ++ rest)) = (digits, rest) := by
  have some_digit : digits.isEmpty = false := List.isEmpty_eq_false_iff.mpr filled
  simp [fractionPart, stop.takeWhile_append all_digits, stop.dropWhile_append all_digits,
    some_digit]

/-- The fraction that is read is written at the start of the text. -/
theorem fractionPart_cases (text : Text) :
    (fractionPart text = ([], text) ∧ ∀ d, d.isDigit = true → ¬['.', d] <+: text) ∨
      ∃ digits rest, text = '.' :: (digits ++ rest) ∧ Digits digits ∧ digits ≠ [] ∧ NoDigit rest ∧
        fractionPart text = (digits, rest) := by
  by_cases point : ∃ rest, text = '.' :: rest
  · obtain ⟨rest, rfl⟩ := point
    by_cases none_read : rest.takeWhile Char.isDigit = []
    · refine .inl ⟨by simp [fractionPart, none_read], fun d digit ⟨others, same⟩ => ?_⟩
      obtain rfl := (List.cons.inj same).2
      simp [digit] at none_read
    · have stop := noDigit_dropWhile rest
      refine .inr ⟨_, _, by rw [List.takeWhile_append_dropWhile], digits_takeWhile rest, none_read,
        stop, ?_⟩
      simp [fractionPart, none_read]
  · refine .inl ⟨?_, fun d _ ⟨others, same⟩ => point ⟨_, same.symm⟩⟩
    rw [fractionPart.eq_def]
    split
    · exact absurd ⟨_, rfl⟩ point
    · rfl

/-! ## Whole digits -/

theorem wholePart_append {whole : Text} (all_digits : Digits whole) (filled : whole ≠ [])
    (no_leading_zero : whole.head? = some '0' → whole = ['0'])
    (stop : whole = ['0'] ∨ NoDigit rest) : wholePart (whole ++ rest) = (whole, rest) := by
  by_cases zero : whole = ['0']
  · rw [zero]
    rfl
  · have no_digit : NoDigit rest := stop.resolve_left zero
    obtain ⟨c, others, rfl⟩ := List.exists_cons_of_ne_nil filled
    rw [wholePart.eq_def]
    split
    · rename_i same
      exact absurd (no_leading_zero (congrArg some (List.cons.inj same).1)) zero
    · rw [no_digit.takeWhile_append all_digits, no_digit.dropWhile_append all_digits]

namespace Numeral

variable {numeral : Numeral}

theorem isInteger_iff :
    numeral.isInteger = true ↔ numeral.fraction = [] ∧ numeral.exponent = none := by
  rw [isInteger, Bool.and_eq_true, List.isEmpty_iff, Option.isNone_iff_eq_none]

section Ends

variable (ends : numeral.EndsBefore rest)
include ends

theorem exponentPart_eq :
    exponentPart (numeral.exponentText ++ rest) =
      (numeral.exponent.map Exponent.value, rest) := by
  cases written : numeral.exponent with
  | none =>
      rcases exponentPart_cases rest with ⟨read, -⟩ | ⟨exponent, tail, rfl, -⟩
      · simpa [exponentText, written] using read
      · exact absurd (List.prefix_append _ _) (ends.no_exponent written exponent)
  | some exponent =>
      have stop : NoDigit rest := by
        refine ends.no_digit.resolve_left fun zero => ?_
        have none := (isInteger_iff.mp zero.2).2
        rw [written] at none
        cases none
      simpa [exponentText, written] using exponent.exponentPart_eq stop

theorem noDigit_exponentText (behind : numeral.isInteger = false ∨ NoDigit rest) :
    NoDigit (numeral.exponentText ++ rest) := by
  cases written : numeral.exponent with
  | none => 
      have stop : NoDigit rest := by
        rcases behind with decimal | stop
        · refine ends.no_digit.resolve_left fun zero => ?_
          rw [zero.2] at decimal
          cases decimal
        · exact stop
      simpa [exponentText, written] using stop
  | some exponent =>
      intro c head
      simp only [exponentText, written, Option.elim, Exponent.text, List.cons_append] at head
      obtain rfl := Option.some.inj head
      rcases exponent.mark_letter with mark | mark <;> rw [mark] <;> rfl

theorem fractionPart_eq :
    fractionPart (numeral.fractionText ++ (numeral.exponentText ++ rest)) =
      (numeral.fraction, numeral.exponentText ++ rest) := by
  by_cases written : numeral.fraction = []
  · rw [fractionText, if_pos written, written, List.nil_append]
    rcases fractionPart_cases (numeral.exponentText ++ rest) with
      ⟨read, -⟩ | ⟨digits, tail, text_eq, all_digits, filled, -⟩
    · exact read
    · exfalso
      cases written_exponent : numeral.exponent with
      | none =>
          obtain ⟨d, others, rfl⟩ := List.exists_cons_of_ne_nil filled
          refine ends.no_fraction (isInteger_iff.mpr ⟨written, written_exponent⟩) d
            (all_digits d List.mem_cons_self) ⟨others ++ tail, ?_⟩
          simpa [exponentText, written_exponent] using text_eq.symm
      | some exponent =>
          simp only [exponentText, written_exponent, Option.elim, Exponent.text,
            List.cons_append] at text_eq
          have mark := (List.cons.inj text_eq).1
          rcases exponent.mark_letter with letter | letter <;> rw [letter] at mark <;> cases mark
  · have decimal : numeral.isInteger = false :=
      Bool.eq_false_iff.mpr fun integer => written (isInteger_iff.mp integer).1
    rw [fractionText, if_neg written, List.cons_append]
    exact fractionPart_append numeral.fraction_digits written
      (noDigit_exponentText ends (.inl decimal))

theorem wholePart_eq :
    wholePart (numeral.whole ++ (numeral.fractionText ++ (numeral.exponentText ++ rest))) =
      (numeral.whole, numeral.fractionText ++ (numeral.exponentText ++ rest)) := by
  refine wholePart_append numeral.whole_digits numeral.whole_filled numeral.no_leading_zero ?_
  by_cases zero : numeral.whole = ['0']
  · exact .inl zero
  · have stop : NoDigit rest := ends.no_digit.resolve_left fun other => zero other.1
    refine .inr ?_
    by_cases written : numeral.fraction = []
    · rw [fractionText, if_pos written]
      exact noDigit_exponentText ends (.inr stop)
    · rw [fractionText, if_neg written]
      rintro c head
      obtain rfl := Option.some.inj head
      rfl

/-- A number is read from the start of a text in which nothing continues it. -/
theorem number_eq :
    number (numeral.text ++ rest) =
      if numeral.isInteger = true ∧ Text.digitLimit < numeral.whole.length then
        .error (.excess (.digits numeral.whole.length))
      else
        .ok (numeral.value, rest) := by
  have sign_eq : ((numeral.text ++ rest).head? == some '-') = numeral.negative := by
    cases sign : numeral.negative with
    | true => simp [text, sign]
    | false =>
        obtain ⟨c, others, whole_eq⟩ := List.exists_cons_of_ne_nil numeral.whole_filled
        have digit := numeral.whole_digits c (whole_eq ▸ List.mem_cons_self)
        have other : c ≠ '-' := by
          rintro rfl
          cases digit
        simp [text, sign, whole_eq, other]
  have unsigned_eq :
      (if numeral.negative then (numeral.text ++ rest).drop 1 else numeral.text ++ rest) =
        numeral.whole ++ (numeral.fractionText ++ (numeral.exponentText ++ rest)) := by
    cases sign : numeral.negative <;> simp [text, sign]
  have filled : numeral.whole.isEmpty = false := List.isEmpty_eq_false_iff.mpr numeral.whole_filled
  have integer : (numeral.fraction.isEmpty = true ∧
      (numeral.exponent.map Exponent.value).isNone = true) ↔ numeral.isInteger = true := by
    rw [Option.isNone_map, isInteger, Bool.and_eq_true]
  simp only [number, sign_eq, unsigned_eq, wholePart_eq ends, fractionPart_eq ends,
    exponentPart_eq ends, filled, Bool.false_eq_true, if_false, integer, value]
  by_cases whole : numeral.isInteger = true
  · by_cases long : Text.digitLimit < numeral.whole.length <;> simp [whole, long]
  · simp [whole]

end Ends

end Numeral

end Json
end HttpAuth
