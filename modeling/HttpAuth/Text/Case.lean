import HttpAuth.Text.Basic
import HttpAuth.Text.CaseData

/-!
# Changing letter case

Lower and upper case over all of Unicode.  A character may become several, and a capital sigma
becomes the final form at the end of a word.
-/

namespace HttpAuth
namespace Text

/-- The image of a code point under the first run that holds it, or the code point itself. -/
def mapRuns (runs : List CaseRun) (code : Nat) : Nat :=
  (runs.findSome? (·.imageOf? code)).getD code

/-- Full case mapping of one code point: its expansion, or else its image in the runs. -/
def mapCase (expansions : List (Nat × List Nat)) (runs : List CaseRun) (code : Nat) : List Nat :=
  (expansions.lookup code).getD [mapRuns runs code]

/-- The code point is an ASCII capital letter. -/
def isAsciiUpper (code : Nat) : Bool :=
  0x41 ≤ code && code ≤ 0x5A

/-- The code point is an ASCII small letter. -/
def isAsciiLower (code : Nat) : Bool :=
  0x61 ≤ code && code ≤ 0x7A

/-- Lower case of one character, apart from the final sigma. -/
def lowerChar (c : Char) : Text :=
  if c.toNat < 0x80 then
    [if isAsciiUpper c.toNat then Char.ofNat (c.toNat + 0x20) else c]
  else
    (mapCase lowerExpansions lowerRuns c.toNat).map Char.ofNat

/-- Upper case of one character. -/
def upperChar (c : Char) : Text :=
  if c.toNat < 0x80 then
    [if isAsciiLower c.toNat then Char.ofNat (c.toNat - 0x20) else c]
  else
    (mapCase upperExpansions upperRuns c.toNat).map Char.ofNat

/-- The first character of the list that matters to a sigma is a letter with case. -/
def meetsCased (text : Text) : Bool :=
  match text.dropWhile (fun c => inRanges caseIgnorableRanges c.toNat) with
  | [] => false
  | c :: _ => inRanges casedRanges c.toNat

/-- Lower case of a text whose characters before it are given in reverse. -/
def lowerAfter (before : Text) : Text → Text
  | [] => []
  | c :: rest =>
      (if c = 'Σ' then
        [if meetsCased before && !meetsCased rest then 'ς' else 'σ']
      else
        lowerChar c) ++ lowerAfter (c :: before) rest

/-- Lower case of a text. -/
def lower (text : Text) : Text :=
  lowerAfter [] text

/-- Upper case of a text. -/
def upper (text : Text) : Text :=
  text.flatMap upperChar

end Text
end HttpAuth
