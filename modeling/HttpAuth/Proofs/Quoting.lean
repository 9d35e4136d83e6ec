import HttpAuth.Proofs.Elements

/-!
# Quoted strings

Behind an opening quote a backslash protects the next character, and the first quote that is not
protected closes the string.  What stands between the two quotes has one value, and the string ends
at one place only.
-/

namespace HttpAuth
namespace Challenge

/-- The second text may stand between two quotes, for in it every quote and every backslash belongs
to a pair of a backslash and one more character.  The first text is its value: each pair gives way
to its second character, and only a pair with a line feed stays. -/
inductive StringBody : Text → Text → Prop where
  /-- Nothing stands for nothing. -/
  | nil : StringBody [] []
  /-- A character outside pairs stands for itself. -/
  | plain {c : Char} {value body : Text} (no_quote : c ≠ '"') (no_escape : c ≠ '\\')
      (rest : StringBody value body) : StringBody (c :: value) (c :: body)
  /-- A pair stands for its second character. -/
  | pair {c : Char} {value body : Text} (no_break : c ≠ '\n') (rest : StringBody value body) :
      StringBody (c :: value) ('\\' :: c :: body)
  /-- A pair with a line feed stands for itself. -/
  | kept {value body : Text} (rest : StringBody value body) :
      StringBody ('\\' :: '\n' :: value) ('\\' :: '\n' :: body)

theorem unescape_cons {c : Char} (no_escape : c ≠ '\\') (rest : Text) :
    unescape (c :: rest) = c :: unescape rest := by
  cases rest with
  | nil => rfl
  | cons d rest => rw [unescape, if_neg fun escape => no_escape escape.1]

namespace StringBody

variable {value body : Text}

theorem of_unmarked {text : Text} (unmarked : ∀ c ∈ text, c ≠ '"' ∧ c ≠ '\\') :
    StringBody text text := by
  induction text with
  | nil => exact .nil
  | cons c rest induction =>
      obtain ⟨no_quote, no_escape⟩ := unmarked c List.mem_cons_self
      exact .plain no_quote no_escape
        (induction fun d member => unmarked d (List.mem_cons_of_mem c member))

theorem unescape_append (written : StringBody value body) (rest : Text) :
    unescape (body ++ rest) = value ++ unescape rest := by
  induction written with
  | nil => rfl
  | plain _ no_escape _ induction =>
      rw [List.cons_append, unescape_cons no_escape, induction]
      rfl
  | pair no_break _ induction =>
      rw [List.cons_append, List.cons_append, unescape, if_pos ⟨rfl, no_break⟩, induction]
      rfl
  | kept _ induction =>
      have breaks : ¬('\\' = '\\' ∧ '\n' ≠ '\n') := fun escape => escape.2 rfl
      rw [List.cons_append, List.cons_append, unescape, if_neg breaks,
        unescape_cons (by decide), induction]
      rfl

theorem unescape_eq (written : StringBody value body) : unescape body = value := by
  have unescaped := written.unescape_append []
  rwa [List.append_nil, unescape, List.append_nil] at unescaped

/-- A reader comes through the body and is still behind the opening quote. -/
theorem whole_append (written : StringBody value body) {rest : Text} (later : Whole .quoted rest) :
    Whole .quoted (body ++ rest) := by
  induction written with
  | nil => exact later
  | @plain c _ _ no_quote no_escape _ induction =>
      have stays : Mode.next .quoted c = .quoted := by simp [Mode.next, no_quote, no_escape]
      refine ⟨by simp, ?_⟩
      rw [stays]
      exact induction
  | pair _ _ induction => exact ⟨by simp, by simp [Mode.next], induction⟩
  | kept _ induction => exact ⟨by simp, by simp [Mode.next], induction⟩

/-- The quote behind the body closes the string. -/
theorem whole (written : StringBody value body) {rest : Text} (later : Whole .plain rest) :
    Whole .quoted (body ++ '"' :: rest) :=
  written.whole_append ⟨by simp, later⟩

/-- A text has its first closing quote at one place. -/
theorem body_unique {other_value other rest later : Text} (first : StringBody value body)
    (second : StringBody other_value other)
    (same : body ++ '"' :: rest = other ++ '"' :: later) : body = other ∧ rest = later := by
  induction first generalizing other_value other with
  | nil =>
      cases second with
      | nil => exact ⟨rfl, (List.cons.inj same).2⟩
      | plain no_quote _ _ => exact absurd (List.cons.inj same).1.symm no_quote
      | pair _ _ | kept _ => cases same
  | plain no_quote no_escape _ induction =>
      cases second with
      | nil => exact absurd (List.cons.inj same).1 no_quote
      | plain _ _ second =>
          obtain ⟨rfl, tail_eq⟩ := List.cons.inj same
          simpa using induction second tail_eq
      | pair _ _ | kept _ => exact absurd (List.cons.inj same).1 no_escape
  | pair no_break _ induction =>
      cases second with
      | nil => cases same
      | plain _ no_escape _ => exact absurd (List.cons.inj same).1.symm no_escape
      | pair _ second =>
          obtain ⟨rfl, tail_eq⟩ := List.cons.inj (List.cons.inj same).2
          simpa using induction second tail_eq
      | kept _ => exact absurd (List.cons.inj (List.cons.inj same).2).1 no_break
  | kept _ induction =>
      cases second with
      | nil => cases same
      | plain _ no_escape _ => exact absurd (List.cons.inj same).1.symm no_escape
      | pair no_break _ => exact absurd (List.cons.inj (List.cons.inj same).2).1.symm no_break
      | kept second =>
          have tail_eq := (List.cons.inj (List.cons.inj same).2).2
          simpa using induction second tail_eq

end StringBody

/-- A reader that ends outside quoted strings has met the quote that closes the one it started in.
After a backslash it takes one more character first. -/
theorem exists_stringBody_append (text : Text) :
    (Whole .quoted text → ∃ value body tail,
      text = body ++ '"' :: tail ∧ StringBody value body ∧ Whole .plain tail) ∧
    (Whole .escaped text → ∃ c value body tail,
      text = c :: (body ++ '"' :: tail) ∧ StringBody value body ∧ Whole .plain tail) := by
  induction text with
  | nil =>
      constructor <;>
      · intro whole
        cases whole
  | cons c rest induction =>
      obtain ⟨from_quoted, from_escaped⟩ := induction
      constructor
      · rintro ⟨-, whole⟩
        by_cases escape : c = '\\'
        · subst escape
          obtain ⟨d, value, body, tail, rfl, written, later⟩ := from_escaped whole
          by_cases line_feed : d = '\n'
          · subst line_feed
            exact ⟨_, '\\' :: '\n' :: body, tail, rfl, .kept written, later⟩
          · exact ⟨_, '\\' :: d :: body, tail, rfl, .pair line_feed written, later⟩
        · by_cases quote : c = '"'
          · subst quote
            exact ⟨[], [], rest, rfl, .nil, whole⟩
          · have stays : Mode.next .quoted c = .quoted := by simp [Mode.next, quote, escape]
            rw [stays] at whole
            obtain ⟨value, body, tail, rfl, written, later⟩ := from_quoted whole
            exact ⟨_, c :: body, tail, rfl, .plain quote escape written, later⟩
      · rintro ⟨-, whole⟩
        obtain ⟨value, body, tail, rfl, written, later⟩ := from_quoted whole
        exact ⟨c, value, body, tail, rfl, written, later⟩

end Challenge
end HttpAuth
