import HttpAuth.Text.Quoted

/-!
# Quotations read back

What stands between the quotes of a quotation is read back character by character: a backslash
begins the form of a character that is not printed as itself, and the mark behind it tells how the
form goes on.  So two texts with the same quotation are the same.
-/

namespace HttpAuth

/-! ## Numbers of fixed width -/

namespace Hex

/-- The number that digits write; other characters count as zeros. -/
def number (digits : Text) : Nat :=
  digits.foldl (fun total c => total * 16 + (value? c).getD 0) 0

theorem number_concat (digits : Text) (c : Char) :
    number (digits ++ [c]) = number digits * 16 + (value? c).getD 0 := by
  simp [number, List.foldl_append]

theorem value?_digit : ∀ value < 0x10, value? (digit value) = some value := by
  decide

@[simp]
theorem length_digits (count value : Nat) : (digits count value).length = count := by
  induction count generalizing value with
  | zero => rfl
  | succ count induction => simp [digits, induction]

theorem number_digits {count value : Nat} (small : value < Nat.pow 16 count) :
    number (digits count value) = value := by
  induction count generalizing value with
  | zero =>
      rw [Nat.lt_one_iff.mp small]
      rfl
  | succ count induction =>
      have front : value / 16 < Nat.pow 16 count := by
        have small : value < Nat.pow 16 count * 16 := small
        rw [Nat.mul_comm] at small
        exact Nat.div_lt_of_lt_mul small
      rw [digits, number_concat, induction front, value?_digit _ (Nat.mod_lt _ (by decide)),
        Option.getD_some]
      omega

end Hex

namespace Text

/-! ## One character -/

/-- The character with the number that the first digits write, and what stands behind them. -/
def readNumbered (count : Nat) (text : Text) : Char × Text :=
  (Char.ofNat (Hex.number (text.take count)), text.drop count)

/-- The character that the beginning of a quotation stands for, and what stands behind it. -/
def readChar? : Text → Option (Char × Text)
  | [] => none
  | '\\' :: 'n' :: rest => some ('\n', rest)
  | '\\' :: 'r' :: rest => some ('\r', rest)
  | '\\' :: 't' :: rest => some ('\t', rest)
  | '\\' :: 'x' :: rest => some (readNumbered 2 rest)
  | '\\' :: 'u' :: rest => some (readNumbered 4 rest)
  | '\\' :: 'U' :: rest => some (readNumbered 8 rest)
  | '\\' :: c :: rest => some (c, rest)
  | c :: rest => some (c, rest)

theorem readNumbered_digits {count : Nat} {c : Char} (small : c.toNat < Nat.pow 16 count)
    (rest : Text) :
    readNumbered count (Hex.digits count c.toNat ++ rest) = (c, rest) := by
  have front : (Hex.digits count c.toNat ++ rest).take count = Hex.digits count c.toNat :=
    List.take_left' (Hex.length_digits count c.toNat)
  have back : (Hex.digits count c.toNat ++ rest).drop count = rest :=
    List.drop_left' (Hex.length_digits count c.toNat)
  rw [readNumbered, front, back, Hex.number_digits small, Char.ofNat_toNat]

theorem readChar?_cons {c : Char} (no_escape : c ≠ '\\') (rest : Text) :
    readChar? (c :: rest) = some (c, rest) := by
  rw [readChar?] <;> simp [no_escape]

/-- The quote that encloses a text is a single or a double one. -/
theorem enclosingQuote_cases (text : Text) :
    enclosingQuote text = '\'' ∨ enclosingQuote text = '"' := by
  rw [enclosingQuote]
  split
  · exact .inr rfl
  · exact .inl rfl

/-- A character that is written by its number is read back. -/
theorem readChar?_number (c : Char) (rest : Text) :
    readChar? ((if c.toNat < 0x100 then ['\\', 'x'] ++ Hex.digits 2 c.toNat
      else if c.toNat < 0x10000 then ['\\', 'u'] ++ Hex.digits 4 c.toNat
      else ['\\', 'U'] ++ Hex.digits 8 c.toNat) ++ rest) = some (c, rest) := by
  split
  · rename_i small
    exact congrArg some (readNumbered_digits small rest)
  · split
    · rename_i small
      exact congrArg some (readNumbered_digits small rest)
    · have valid_char := c.valid
      have bound : Nat.pow 16 8 = 0x100000000 := rfl
      have small : c.toNat < Nat.pow 16 8 := by
        simp only [UInt32.isValidChar, Nat.isValidChar] at valid_char
        simp only [Char.toNat]
        omega
      exact congrArg some (readNumbered_digits small rest)

section OneCharacter

variable {quote : Char} (valid : quote = '\'' ∨ quote = '"')
include valid

theorem readChar?_quotedChar (c : Char) (rest : Text) :
    readChar? (quotedChar quote c ++ rest) = some (c, rest) := by
  rw [quotedChar]
  split
  · rename_i marked
    rcases marked with rfl | rfl
    · rcases valid with rfl | rfl <;> rfl
    · rfl
  · rename_i unmarked
    split
    · rename_i line_feed
      rw [line_feed]
      rfl
    · split
      · rename_i carriage_return
        rw [carriage_return]
        rfl
      · split
        · rename_i tab
          rw [tab]
          rfl
        · split
          · exact readChar?_number c rest
          · exact readChar?_cons (not_or.mp unmarked).2 rest

/-- No character has a form that begins with the enclosing quote. -/
theorem exists_quotedChar (c : Char) :
    ∃ first rest, quotedChar quote c = first :: rest ∧ first ≠ quote := by
  have escape : '\\' ≠ quote := by rcases valid with rfl | rfl <;> decide
  rw [quotedChar]
  split
  · exact ⟨_, _, rfl, escape⟩
  · rename_i unmarked
    repeat' split
    all_goals first
      | exact ⟨_, _, rfl, escape⟩
      | exact ⟨_, _, rfl, (not_or.mp unmarked).1⟩

/-! ## Texts -/

theorem flatMap_quotedChar_inj {text other : Text}
    (same : text.flatMap (quotedChar quote) ++ [quote] =
      other.flatMap (quotedChar quote) ++ [quote]) : text = other := by
  induction text generalizing other with
  | nil =>
      cases other with
      | nil => rfl
      | cons d others =>
          obtain ⟨first, rest, form, different⟩ := exists_quotedChar valid d
          rw [List.flatMap_cons, form] at same
          exact absurd (List.cons.inj same).1.symm different
  | cons c rest induction =>
      cases other with
      | nil =>
          obtain ⟨first, later, form, different⟩ := exists_quotedChar valid c
          rw [List.flatMap_cons, form] at same
          exact absurd (List.cons.inj same).1 different
      | cons d others =>
          rw [List.flatMap_cons, List.flatMap_cons, List.append_assoc, List.append_assoc] at same
          have read := congrArg readChar? same
          rw [readChar?_quotedChar valid, readChar?_quotedChar valid, Option.some.injEq,
            Prod.mk.injEq] at read
          rw [read.1, induction read.2]

end OneCharacter

/-- A text is read off its quotation. -/
theorem quoted_inj {text other : Text} : quoted text = quoted other ↔ text = other := by
  refine ⟨fun same => ?_, congrArg quoted⟩
  simp only [quoted, List.cons_append, List.cons.injEq] at same
  obtain ⟨quote_eq, rest⟩ := same
  rw [← quote_eq] at rest
  exact flatMap_quotedChar_inj (enclosingQuote_cases text) rest

end Text
end HttpAuth
