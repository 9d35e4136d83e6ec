import HttpAuth.Text.Basic

/-!
# Cutting a text at a mark

A part without the mark passes through a cut, and the mark behind it ends it.  What is known of cuts
and pieces follows from these two equations.
-/

namespace HttpAuth
namespace Text

variable {mark : Char}

/-! ## One cut -/

theorem cut_of_not_mem {text : Text} (absent : mark ∉ text) : cut mark text = (text, none) := by
  induction text with
  | nil => rfl
  | cons c rest induction =>
      have different := List.ne_of_not_mem_cons absent
      have later := List.not_mem_of_not_mem_cons absent
      rw [cut, if_neg (Ne.symm different), induction later]

theorem cut_append_mark {front : Text} (absent : mark ∉ front) (rest : Text) :
    cut mark (front ++ mark :: rest) = (front, some rest) := by
  induction front with
  | nil => simp [cut]
  | cons c front induction =>
      have different := List.ne_of_not_mem_cons absent
      have later := List.not_mem_of_not_mem_cons absent
      rw [List.cons_append, cut, if_neg (Ne.symm different), induction later]

theorem not_mem_cut (mark : Char) (text : Text) : mark ∉ (cut mark text).1 := by
  induction text with
  | nil => exact List.not_mem_nil
  | cons c rest induction =>
      rw [cut]
      split
      · exact List.not_mem_nil
      · rename_i different
        exact List.not_mem_cons_of_ne_of_not_mem (Ne.symm different) induction

theorem eq_of_cut {text before after : Text} (parts : cut mark text = (before, some after)) :
    text = before ++ mark :: after := by
  have whole := cut_append mark text
  rw [parts] at whole
  exact whole.symm

/-! ## All pieces -/

theorem pieces_of_not_mem {text : Text} (absent : mark ∉ text) : pieces mark text = [text] := by
  induction text with
  | nil => rfl
  | cons c rest induction =>
      have different := List.ne_of_not_mem_cons absent
      have later := List.not_mem_of_not_mem_cons absent
      rw [pieces, if_neg (Ne.symm different), induction later]

theorem pieces_append_mark {front : Text} (absent : mark ∉ front) (rest : Text) :
    pieces mark (front ++ mark :: rest) = front :: pieces mark rest := by
  induction front with
  | nil => simp [pieces]
  | cons c front induction =>
      have different := List.ne_of_not_mem_cons absent
      have later := List.not_mem_of_not_mem_cons absent
      rw [List.cons_append, pieces, if_neg (Ne.symm different), induction later]

/-- There is one more piece than there are marks. -/
theorem length_pieces (mark : Char) (text : Text) :
    (pieces mark text).length = text.count mark + 1 := by
  induction text with
  | nil => rfl
  | cons c rest induction =>
      rw [pieces]
      split
      · rename_i same
        simp [same, induction]
      · rename_i different
        rw [List.count_cons_of_ne different, ← induction]
        split
        · rename_i no_piece
          exact absurd no_piece (pieces_ne_nil mark rest)
        · rename_i first others rest_eq
          rw [rest_eq]
          rfl

theorem mem_joined {pieces : List Text} {c : Char} (member : c ∈ joined mark pieces) :
    c = mark ∨ ∃ piece ∈ pieces, c ∈ piece := by
  induction pieces with
  | nil => cases member
  | cons piece others induction =>
      cases others with
      | nil => exact .inr ⟨piece, List.mem_cons_self, member⟩
      | cons next others =>
          rw [joined, List.mem_append, List.mem_cons] at member
          rcases member with inside | same | later
          · exact .inr ⟨piece, List.mem_cons_self, inside⟩
          · exact .inl same
          · rcases induction later with same | ⟨found, found_mem, inside⟩
            · exact .inl same
            · exact .inr ⟨found, List.mem_cons_of_mem piece found_mem, inside⟩

theorem isInfix_joined {pieces : List Text} {piece : Text} (member : piece ∈ pieces) :
    piece <:+: joined mark pieces := by
  induction pieces with
  | nil => cases member
  | cons first others induction =>
      cases others with
      | nil =>
          rw [List.mem_singleton.mp member]
          exact List.infix_rfl
      | cons next others =>
          rw [joined]
          rcases List.mem_cons.mp member with rfl | later
          · exact (List.prefix_append piece _).isInfix
          · have behind : joined mark (next :: others) <:+
                first ++ mark :: joined mark (next :: others) :=
              (List.suffix_cons mark _).trans (List.suffix_append first _)
            exact (induction later).trans behind.isInfix

theorem pieces_joined {pieces : List Text} (filled : pieces ≠ [])
    (unmarked : ∀ piece ∈ pieces, mark ∉ piece) :
    Text.pieces mark (joined mark pieces) = pieces := by
  induction pieces with
  | nil => exact absurd rfl filled
  | cons piece others induction =>
      have first := unmarked piece List.mem_cons_self
      cases others with
      | nil => exact pieces_of_not_mem first
      | cons next others =>
          have later := induction (List.cons_ne_nil next others) fun other member =>
            unmarked other (List.mem_cons_of_mem piece member)
          rw [joined, pieces_append_mark first, later]

/-- No piece has a mark. -/
theorem not_mem_of_mem_pieces {text piece : Text} (member : piece ∈ pieces mark text) :
    mark ∉ piece := by
  induction text generalizing piece with
  | nil =>
      rw [List.mem_singleton.mp member]
      exact List.not_mem_nil
  | cons c rest induction =>
      rw [pieces] at member
      split at member
      · rcases List.mem_cons.mp member with rfl | later
        · exact List.not_mem_nil
        · exact induction later
      · rename_i different
        split at member
        · rename_i no_piece
          exact absurd no_piece (pieces_ne_nil mark rest)
        · rename_i first others rest_eq
          rcases List.mem_cons.mp member with rfl | later
          · have unmarked : mark ∉ first := induction (by rw [rest_eq]; exact List.mem_cons_self)
            exact List.not_mem_cons_of_ne_of_not_mem (Ne.symm different) unmarked
          · exact induction (by rw [rest_eq]; exact List.mem_cons_of_mem first later)

theorem mem_pieces {text : Text} {c : Char} (member : c ∈ text) (other : c ≠ mark) :
    ∃ piece ∈ pieces mark text, c ∈ piece := by
  rw [← joined_pieces mark text] at member
  rcases mem_joined member with same | inside
  · exact absurd same other
  · exact inside

/-! ## Behind the last mark -/

/-- A text ends as what stands behind a mark in it does. -/
theorem getLast?_append_mark (front : Text) (mark : Char) {rest : Text} (filled : rest ≠ []) :
    (front ++ mark :: rest).getLast? = rest.getLast? := by
  rw [List.getLast?_append, List.getLast?_cons_of_ne_nil filled,
    List.getLast?_eq_some_getLast filled, Option.some_or]

theorem takeWhile_reverse_append {text : Text} (absent : mark ∉ text) (tail : Text) :
    (text.reverse ++ tail).takeWhile (· != mark) = text.reverse ++ tail.takeWhile (· != mark) := by
  apply List.takeWhile_append_of_pos
  intro c member
  refine bne_iff_ne.mpr ?_
  rintro rfl
  exact absent (List.mem_reverse.mp member)

theorem afterLast_of_not_mem {text : Text} (absent : mark ∉ text) : afterLast mark text = text := by
  have all := takeWhile_reverse_append absent []
  rw [List.append_nil] at all
  simp [afterLast, all]

theorem afterLast_append_mark (front : Text) {rest : Text} (absent : mark ∉ rest) :
    afterLast mark (front ++ mark :: rest) = rest := by
  rw [afterLast, List.reverse_append, List.reverse_cons, List.append_assoc,
    takeWhile_reverse_append absent]
  simp

/-! ## Without the marks at the end -/

theorem exists_dropTrailing_append (mark : Char) (text : Text) :
    ∃ marks, text = dropTrailing mark text ++ marks := by
  refine ⟨(text.reverse.takeWhile (· == mark)).reverse, ?_⟩
  rw [dropTrailing, ← List.reverse_append, List.takeWhile_append_dropWhile, List.reverse_reverse]

theorem mem_of_mem_dropTrailing {text : Text} {c : Char} (member : c ∈ dropTrailing mark text) :
    c ∈ text := by
  obtain ⟨marks, text_eq⟩ := exists_dropTrailing_append mark text
  rw [text_eq]
  exact List.mem_append_left marks member

theorem getLast?_dropTrailing (mark : Char) (text : Text) :
    (dropTrailing mark text).getLast? ≠ some mark := by
  intro last
  rw [dropTrailing, List.getLast?_reverse] at last
  have stopped := List.head?_dropWhile_not (· == mark) text.reverse
  rw [last] at stopped
  simp at stopped

theorem dropTrailing_of_getLast? {text : Text} (other : text.getLast? ≠ some mark) :
    dropTrailing mark text = text := by
  rw [dropTrailing]
  cases reversed : text.reverse with
  | nil => rw [List.dropWhile_nil, ← reversed, List.reverse_reverse]
  | cons c others =>
      have last : text.getLast? = some c := by rw [← List.head?_reverse, reversed, List.head?_cons]
      have different : (c == mark) = false := by
        refine beq_eq_false_iff_ne.mpr ?_
        rintro rfl
        exact other last
      rw [List.dropWhile_cons, different, if_neg Bool.false_ne_true, ← reversed,
        List.reverse_reverse]

end Text
end HttpAuth
