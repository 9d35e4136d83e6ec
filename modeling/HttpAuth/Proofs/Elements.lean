import HttpAuth.Challenge.Parser
import HttpAuth.Proofs.Cutting
import HttpAuth.Proofs.Trimming

/-!
# Elements between commas

A text that a reader leaves outside quoted strings, and in which it meets no comma there, is one
piece.  Texts of this kind can be joined by commas and cut again.  Blanks around the text do not
change its elements.
-/

namespace HttpAuth
namespace Challenge

open Text

/-- From this mode a reader meets no comma outside quoted strings and ends outside them. -/
def Whole : Mode → Text → Prop
  | mode, [] => mode = .plain
  | mode, c :: rest => ¬(mode = .plain ∧ c = ',') ∧ Whole (mode.next c) rest

/-- What counts among the pieces: those that are not blank, trimmed. -/
def filled (pieces : List Text) : List Text :=
  (pieces.map trim).filter (!·.isEmpty)

theorem filled_cons (piece : Text) (others : List Text) :
    filled (piece :: others) =
      if (trim piece).isEmpty then filled others else trim piece :: filled others := by
  simp only [filled, List.map_cons, List.filter_cons]
  cases (trim piece).isEmpty <;> rfl

theorem filled_append (pieces others : List Text) :
    filled (pieces ++ others) = filled pieces ++ filled others := by
  rw [filled, List.map_append, List.filter_append]
  rfl

theorem filled_cons_of_blank {piece : Text} (blank : Blank piece) (others : List Text) :
    filled (piece :: others) = filled others := by
  rw [filled_cons, trim_of_blank blank]
  rfl

theorem elements_eq_ok_iff {text : Text} {found : List Text} :
    elements text = .ok found ↔ (cutElements? .plain text).map filled = some found := by
  cases cut : cutElements? .plain text with
  | none => simp [elements, cut]
  | some pieces => simp [elements, cut, filled]

/-! ## Whole pieces -/

theorem Whole.append {mode : Mode} {front text : Text} (first : Whole mode front)
    (second : Whole .plain text) : Whole mode (front ++ text) := by
  induction front generalizing mode with
  | nil =>
      cases first
      exact second
  | cons c front induction => exact ⟨first.1, induction first.2⟩

/-- What stands behind a text without quotes is read from outside quoted strings. -/
theorem Whole.of_append {front text : Text} (unquoted : '"' ∉ front)
    (whole : Whole .plain (front ++ text)) : Whole .plain text := by
  induction front with
  | nil => exact whole
  | cons c front induction =>
      have no_quote := List.ne_of_not_mem_cons unquoted
      have stays : Mode.next .plain c = .plain := by simp [Mode.next, Ne.symm no_quote]
      have later := whole.2
      rw [stays] at later
      exact induction (List.not_mem_of_not_mem_cons unquoted) later

/-- A text without commas and quotes is one piece. -/
theorem whole_of_unmarked {text : Text} (unmarked : ∀ c ∈ text, c ≠ ',' ∧ c ≠ '"') :
    Whole .plain text := by
  induction text with
  | nil => rfl
  | cons c rest induction =>
      obtain ⟨no_comma, no_quote⟩ := unmarked c List.mem_cons_self
      have stays : Mode.next .plain c = .plain := by simp [Mode.next, no_quote]
      refine ⟨fun comma => no_comma comma.2, ?_⟩
      rw [stays]
      exact induction fun d member => unmarked d (List.mem_cons_of_mem c member)

theorem not_mark_of_isBlank {c : Char} (blank : isBlank c = true) :
    c ≠ ',' ∧ c ≠ '"' ∧ c ≠ '\\' ∧ c ≠ '=' := by
  refine ⟨?_, ?_, ?_, ?_⟩ <;>
  · rintro rfl
    revert blank
    decide

theorem whole_of_blank {blanks : Text} (blank : Blank blanks) : Whole .plain blanks :=
  whole_of_unmarked fun c member =>
    ⟨(not_mark_of_isBlank (blank c member)).1, (not_mark_of_isBlank (blank c member)).2.1⟩

theorem foldr_extendFirst (front piece : Text) (others : List Text) :
    front.foldr extendFirst (piece :: others) = (front ++ piece) :: others := by
  induction front with
  | nil => rfl
  | cons c front induction =>
      rw [List.foldr_cons, induction]
      rfl

/-- A whole piece goes to the front of what follows it. -/
theorem Whole.cut_append {mode : Mode} {front : Text} (whole : Whole mode front) (rest : Text) :
    cutElements? mode (front ++ rest) =
      (cutElements? .plain rest).map fun pieces => front.foldr extendFirst pieces := by
  induction front generalizing mode with
  | nil =>
      cases whole
      simp
  | cons c front induction =>
      obtain ⟨inside, later⟩ := whole
      rw [List.cons_append, cutElements?, if_neg inside, induction later, Option.map_map]
      rfl

theorem Whole.cut_eq {mode : Mode} {piece : Text} (whole : Whole mode piece) :
    cutElements? mode piece = some [piece] := by
  have cut := whole.cut_append []
  rw [List.append_nil] at cut
  rw [cut]
  simp [cutElements?, foldr_extendFirst]

/-- A comma ends a whole piece. -/
theorem Whole.cut_append_comma {piece : Text} (whole : Whole .plain piece) (rest : Text) :
    cutElements? .plain (piece ++ ',' :: rest) = (cutElements? .plain rest).map (piece :: ·) := by
  rw [whole.cut_append, cutElements?, if_pos ⟨rfl, rfl⟩, Option.map_map]
  congr 1
  funext pieces
  simp [foldr_extendFirst]

/-- Whole pieces that are joined by commas are cut apart again. -/
theorem cut_joined {pieces : List Text} (some_piece : pieces ≠ [])
    (whole : ∀ piece ∈ pieces, Whole .plain piece) :
    cutElements? .plain (joined ',' pieces) = some pieces := by
  induction pieces with
  | nil => exact absurd rfl some_piece
  | cons piece others induction =>
      have first := whole piece List.mem_cons_self
      cases others with
      | nil => exact first.cut_eq
      | cons next others =>
          have later := induction (List.cons_ne_nil next others)
            fun other member => whole other (List.mem_cons_of_mem piece member)
          rw [joined, first.cut_append_comma, later, Option.map_some]

theorem elements_joined {pieces : List Text} (whole : ∀ piece ∈ pieces, Whole .plain piece) :
    elements (joined ',' pieces) = .ok (filled pieces) := by
  cases pieces with
  | nil => rfl
  | cons piece others =>
      rw [elements_eq_ok_iff, cut_joined (List.cons_ne_nil piece others) whole, Option.map_some]

/-- The pieces of a cut are whole, the first one from where the reader stands, and the commas
between them make up the text. -/
theorem whole_of_cut {mode : Mode} {text : Text} {pieces : List Text}
    (cut : cutElements? mode text = some pieces) :
    ∃ first others, pieces = first :: others ∧ Whole mode first ∧
      (∀ piece ∈ others, Whole .plain piece) ∧ joined ',' pieces = text := by
  induction text generalizing mode pieces with
  | nil =>
      rw [cutElements?] at cut
      split at cut
      · rename_i outside
        cases cut
        exact ⟨[], [], rfl, outside, by simp, rfl⟩
      · cases cut
  | cons c rest induction =>
      rw [cutElements?] at cut
      split at cut
      · rename_i comma
        obtain ⟨later, rest_cut, rfl⟩ := Option.map_eq_some_iff.mp cut
        obtain ⟨first, others, rfl, first_whole, whole, text_eq⟩ := induction rest_cut
        refine ⟨[], first :: others, rfl, comma.1, ?_, ?_⟩
        · intro piece member
          rcases List.mem_cons.mp member with rfl | later
          · exact first_whole
          · exact whole piece later
        · rw [joined, text_eq, comma.2]
          rfl
      · rename_i inside
        obtain ⟨later, rest_cut, rfl⟩ := Option.map_eq_some_iff.mp cut
        obtain ⟨first, others, rfl, first_whole, whole, text_eq⟩ := induction rest_cut
        refine ⟨c :: first, others, rfl, ⟨inside, first_whole⟩, whole, ?_⟩
        rw [← text_eq]
        cases others <;> rfl

theorem ne_nil_of_cut {mode : Mode} {text : Text} {pieces : List Text}
    (cut : cutElements? mode text = some pieces) : pieces ≠ [] := by
  obtain ⟨first, others, rfl, -⟩ := whole_of_cut cut
  exact List.cons_ne_nil first others

/-- An element is not empty and stands in the text. -/
theorem mem_elements {text element : Text} {found : List Text} (split : elements text = .ok found)
    (member : element ∈ found) : element ≠ [] ∧ element <:+: text := by
  obtain ⟨pieces, cut, rfl⟩ := Option.map_eq_some_iff.mp (elements_eq_ok_iff.mp split)
  obtain ⟨trimmed, some_text⟩ := List.mem_filter.mp member
  obtain ⟨piece, piece_mem, rfl⟩ := List.mem_map.mp trimmed
  obtain ⟨first, others, -, -, -, text_eq⟩ := whole_of_cut cut
  have standing : piece <:+: text := by
    rw [← text_eq]
    exact isInfix_joined piece_mem
  exact ⟨by simpa using some_text, (isInfix_trim piece).trans standing⟩

/-- A comma behind a text that is cut ends its last piece. -/
theorem cut_append_comma {mode : Mode} {front : Text} {pieces : List Text}
    (cut : cutElements? mode front = some pieces) (rest : Text) :
    cutElements? mode (front ++ ',' :: rest) =
      (cutElements? .plain rest).map fun later => pieces ++ later := by
  induction front generalizing mode pieces with
  | nil =>
      rw [cutElements?] at cut
      split at cut
      · rename_i outside
        cases cut
        rw [List.nil_append, cutElements?, if_pos ⟨outside, rfl⟩]
        rfl
      · cases cut
  | cons c front induction =>
      rw [cutElements?] at cut
      rw [List.cons_append, cutElements?]
      split at cut
      · rename_i comma
        obtain ⟨found, front_cut, rfl⟩ := Option.map_eq_some_iff.mp cut
        rw [if_pos comma, induction front_cut, Option.map_map]
        rfl
      · rename_i inside
        obtain ⟨found, front_cut, rfl⟩ := Option.map_eq_some_iff.mp cut
        rw [if_neg inside, induction front_cut, Option.map_map]
        congr 1
        funext later
        cases found with
        | nil => exact absurd rfl (ne_nil_of_cut front_cut)
        | cons piece others => rfl

/-- The elements of two texts with a comma between them are those of the first and those of the
second. -/
theorem elements_append_comma {front rest : Text} {found later : List Text}
    (first : elements front = .ok found) (second : elements rest = .ok later) :
    elements (front ++ ',' :: rest) = .ok (found ++ later) := by
  rw [elements_eq_ok_iff] at first second ⊢
  obtain ⟨pieces, cut, rfl⟩ := Option.map_eq_some_iff.mp first
  obtain ⟨others, rest_cut, rfl⟩ := Option.map_eq_some_iff.mp second
  rw [cut_append_comma cut, rest_cut, Option.map_some, Option.map_some, filled_append]

/-! ## Blanks around the text -/

/-- Put a text behind the last piece. -/
def extendLast (text : Text) : List Text → List Text
  | [] => []
  | [piece] => [piece ++ text]
  | piece :: next :: others => piece :: extendLast text (next :: others)

theorem extendLast_extendFirst (text : Text) (c : Char) {pieces : List Text}
    (some_piece : pieces ≠ []) :
    extendLast text (extendFirst c pieces) = extendFirst c (extendLast text pieces) := by
  match pieces with
  | [] => exact absurd rfl some_piece
  | [_] => rfl
  | _ :: _ :: _ => rfl

theorem extendLast_cons (text piece : Text) {pieces : List Text} (some_piece : pieces ≠ []) :
    extendLast text (piece :: pieces) = piece :: extendLast text pieces := by
  match pieces with
  | [] => exact absurd rfl some_piece
  | _ :: _ => rfl

/-- Blanks do not close a quoted string. -/
theorem cut_blank {mode : Mode} {blanks : Text} (blank : Blank blanks) :
    cutElements? mode blanks = if mode = .plain then some [blanks] else none := by
  induction blanks generalizing mode with
  | nil => rfl
  | cons c rest induction =>
      -- A blank after a backslash goes back into the quoted string, so the mode is not kept here.
      obtain ⟨no_comma, no_quote, no_escape, -⟩ := not_mark_of_isBlank (blank c List.mem_cons_self)
      have later := @induction (mode.next c) fun d member => blank d (List.mem_cons_of_mem c member)
      rw [cutElements?, if_neg (fun comma => no_comma comma.2), later]
      cases mode <;> simp [Mode.next, no_quote, no_escape, extendFirst]

/-- Blanks at the end of a text are behind its last piece. -/
theorem cut_append_blank {mode : Mode} (text : Text) {blanks : Text} (blank : Blank blanks) :
    cutElements? mode (text ++ blanks) = (cutElements? mode text).map (extendLast blanks) := by
  induction text generalizing mode with
  | nil =>
      rw [List.nil_append, cut_blank blank, cutElements?]
      split <;> rfl
  | cons c rest induction =>
      rw [List.cons_append, cutElements?, cutElements?]
      split
      · rw [induction]
        cases cut : cutElements? .plain rest with
        | none => rfl
        | some pieces =>
            simp [extendLast_cons blanks [] (ne_nil_of_cut cut)]
      · rw [induction]
        cases cut : cutElements? (mode.next c) rest with
        | none => rfl
        | some pieces =>
            simp [extendLast_extendFirst blanks c (ne_nil_of_cut cut)]

/-- Blanks behind a text do not make it whole. -/
theorem Whole.of_append_blank {mode : Mode} {text blanks : Text}
    (whole : Whole mode (text ++ blanks)) (blank : Blank blanks) : Whole mode text := by
  have cut := whole.cut_eq
  rw [cut_append_blank text blank] at cut
  obtain ⟨pieces, text_cut, extended⟩ := Option.map_eq_some_iff.mp cut
  obtain ⟨first, others, rfl, first_whole, -, text_eq⟩ := whole_of_cut text_cut
  cases others with
  | nil =>
      rw [← text_eq]
      exact first_whole
  | cons next others =>
      rw [extendLast, List.cons.injEq] at extended
      cases others <;> cases extended.2

theorem filled_extendLast {blanks : Text} (blank : Blank blanks) (pieces : List Text) :
    filled (extendLast blanks pieces) = filled pieces := by
  induction pieces with
  | nil => rfl
  | cons piece others induction =>
      cases others with
      | nil => simp only [extendLast, filled_cons, trim_append_right blank]
      | cons next others =>
          rw [extendLast, filled_cons, induction, ← filled_cons]

/-- The elements of a text are those of the text with blanks behind it. -/
theorem elements_concat_blank {text blanks : Text} {found : List Text} (blank : Blank blanks) :
    elements (text ++ blanks) = .ok found ↔ elements text = .ok found := by
  have same : (cutElements? .plain (text ++ blanks)).map filled =
      (cutElements? .plain text).map filled := by
    rw [cut_append_blank text blank, Option.map_map]
    congr 1
    funext pieces
    exact filled_extendLast blank pieces
  rw [elements_eq_ok_iff, elements_eq_ok_iff, same]

theorem elements_trimRight {text : Text} {found : List Text} :
    elements (trimRight text) = .ok found ↔ elements text = .ok found := by
  obtain ⟨blanks, blank, text_eq⟩ := exists_trimRight_append text
  conv => rhs; rw [text_eq, elements_concat_blank blank]

/-- The elements of a text are those of the text with blanks before it. -/
theorem elements_append_blank {blanks text : Text} {found : List Text} (blank : Blank blanks) :
    elements (blanks ++ text) = .ok found ↔ elements text = .ok found := by
  have same : (cutElements? .plain (blanks ++ text)).map filled =
      (cutElements? .plain text).map filled := by
    rw [(whole_of_blank blank).cut_append]
    cases cut : cutElements? .plain text with
    | none => rfl
    | some pieces =>
        obtain ⟨piece, others, rfl⟩ := List.exists_cons_of_ne_nil (ne_nil_of_cut cut)
        simp [foldr_extendFirst, filled_cons, trim_append_left blank]
  rw [elements_eq_ok_iff, elements_eq_ok_iff, same]

theorem elements_trimLeft {text : Text} {found : List Text} :
    elements (trimLeft text) = .ok found ↔ elements text = .ok found := by
  obtain ⟨blanks, blank, text_eq⟩ := exists_append_trimLeft text
  conv => rhs; rw [text_eq, elements_append_blank blank]

end Challenge
end HttpAuth
