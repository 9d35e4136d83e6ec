import HttpAuth.Text.Basic

/-!
# Blank characters

The characters that separate words: the Unicode characters of bidirectional class whitespace,
segment or paragraph separator, and the space separators.  A text is trimmed at both ends, and its
first word ends at the first blank.
-/

namespace HttpAuth
namespace Text

/-- Ranges of the blank code points. -/
def blankRanges : List (Nat × Nat) :=
  [
    (0x0009, 0x000D), (0x001C, 0x0020), (0x0085, 0x0085), (0x00A0, 0x00A0), (0x1680, 0x1680),
    (0x2000, 0x200A), (0x2028, 0x2029), (0x202F, 0x202F), (0x205F, 0x205F), (0x3000, 0x3000)
  ]

/-- The character separates words. -/
def isBlank (c : Char) : Bool :=
  inRanges blankRanges c.toNat

/-- Drop the blanks at the start. -/
def trimLeft (text : Text) : Text :=
  text.dropWhile isBlank

/-- Drop the blanks at the end. -/
def trimRight (text : Text) : Text :=
  (text.reverse.dropWhile isBlank).reverse

/-- Drop the blanks at both ends. -/
def trim (text : Text) : Text :=
  trimRight (trimLeft text)

/-- The characters up to the first blank. -/
def firstWord (text : Text) : Text :=
  text.takeWhile (!isBlank ·)

/-- What follows the first word and the blanks after it. -/
def afterFirstWord (text : Text) : Text :=
  trimLeft (text.dropWhile (!isBlank ·))

end Text
end HttpAuth
