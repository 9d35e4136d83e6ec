/-!
# Texts and octet strings

A text is a list of characters and a body is a list of octets.  The cutting operations split a text
at a mark without losing a character.
-/

namespace HttpAuth

/-- A sequence of Unicode characters; surrogates are not among them. -/
abbrev Text := List Char

/-- A sequence of octets. -/
abbrev Octets := List UInt8

namespace Text

/-- Cut a text at the first mark; the second part is absent when the mark does not occur. -/
def cut (mark : Char) : Text → Text × Option Text
  | [] => ([], none)
  | c :: rest =>
      if c = mark then
        ([], some rest)
      else
        ((c :: (cut mark rest).1), (cut mark rest).2)

/-- The pieces between all marks; there is one more than there are marks. -/
def pieces (mark : Char) : Text → List Text
  | [] => [[]]
  | c :: rest =>
      if c = mark then
        [] :: pieces mark rest
      else
        match pieces mark rest with
        | [] => [[c]]
        | piece :: others => (c :: piece) :: others

/-- Put a mark between consecutive pieces. -/
def joined (mark : Char) : List Text → Text
  | [] => []
  | [piece] => piece
  | piece :: next :: others => piece ++ mark :: joined mark (next :: others)

/-- What follows the last mark, or the whole text when the mark does not occur. -/
def afterLast (mark : Char) (text : Text) : Text :=
  (text.reverse.takeWhile (· != mark)).reverse

/-- Drop every trailing occurrence of a character. -/
def dropTrailing (mark : Char) (text : Text) : Text :=
  (text.reverse.dropWhile (· == mark)).reverse

/-- The code point belongs to one of the closed ranges. -/
def inRanges (ranges : List (Nat × Nat)) (code : Nat) : Bool :=
  ranges.any fun range => range.1 ≤ code && code ≤ range.2

theorem pieces_ne_nil (mark : Char) (text : Text) : pieces mark text ≠ [] := by
  cases text with
  | nil => simp [pieces]
  | cons c rest =>
      simp only [pieces]
      split
      · simp
      · split <;> simp

/-- Joining the pieces gives the text back. -/
@[simp]
theorem joined_pieces (mark : Char) (text : Text) : joined mark (pieces mark text) = text := by
  induction text with
  | nil => rfl
  | cons c rest induction =>
      simp only [pieces]
      split
      · rename_i same
        cases tail : pieces mark rest with
        | nil => exact absurd tail (pieces_ne_nil mark rest)
        | cons piece others =>
            rw [tail] at induction
            simp [joined, induction, same]
      · cases tail : pieces mark rest with
        | nil => exact absurd tail (pieces_ne_nil mark rest)
        | cons piece others =>
            rw [tail] at induction
            cases others with
            | nil => simpa [joined] using induction
            | cons next others =>
                simp only [joined, List.cons_append] at induction ⊢
                rw [induction]

/-- The two parts of a cut and the mark between them are the text. -/
theorem cut_append (mark : Char) (text : Text) :
    (cut mark text).1 ++ ((cut mark text).2.map (mark :: ·)).getD [] = text := by
  induction text with
  | nil => rfl
  | cons c rest induction =>
      simp only [cut]
      split
      · rename_i same
        simp [same]
      · simpa using induction

end Text
end HttpAuth
