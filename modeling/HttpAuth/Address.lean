import HttpAuth.Hex
import HttpAuth.Text.Digit

/-!
# Internet addresses

Which texts are addresses of version 4 and of version 6.  A version 6 address is eight groups, or
fewer on both sides of one gap; its last two groups may be written as a version 4 address, and a
zone may follow.
-/

namespace HttpAuth
namespace Address

/-- A decimal number below 256 without leading zeros. -/
def isByte (text : Text) : Bool :=
  !text.isEmpty && text.all Char.isDigit && text.length ≤ 3 &&
    (text.head? != some '0' || text.length == 1) &&
    Text.digitsValue text ≤ 255

/-- An address of version 4. -/
def isVersion4 (text : Text) : Bool :=
  let parts := Text.pieces '.' text
  parts.length == 4 && parts.all isByte

/-- One to four hexadecimal digits. -/
def isGroup (text : Text) : Bool :=
  !text.isEmpty && text.length ≤ 4 && text.all fun c => (Hex.value? c).isSome

/-- The number of groups that a list of parts writes, where the last part may be a version 4
address when that is allowed. -/
def groupCount? (tail4 : Bool) : List Text → Option Nat
  | [] => some 0
  | [part] =>
      if isGroup part then some 1
      else if tail4 && isVersion4 part then some 2
      else none
  | part :: next :: others =>
      if isGroup part then (groupCount? tail4 (next :: others)).map (· + 1) else none

/-- The number of groups on one side of a gap; a side may be empty. -/
def sideCount? (tail4 : Bool) (text : Text) : Option Nat :=
  if text.isEmpty then some 0 else groupCount? tail4 (Text.pieces ':' text)

/-- The two sides of the first pair of colons. -/
def cutGap : Text → Text × Option Text
  | ':' :: ':' :: rest => ([], some rest)
  | [] => ([], none)
  | c :: rest => (c :: (cutGap rest).1, (cutGap rest).2)

/-- An address of version 6 without a zone. -/
def isGroups (text : Text) : Bool :=
  match cutGap text with
  | (all, none) => sideCount? true all == some 8
  | (high, some low) =>
      match sideCount? false high, sideCount? true low with
      | some above, some below => above + below ≤ 7
      | _, _ => false

/-- An address of version 6. -/
def isVersion6 (text : Text) : Bool :=
  match Text.cut '%' text with
  | (address, none) => isGroups address
  | (address, some zone) => !zone.isEmpty && !zone.contains '%' && isGroups address

end Address
end HttpAuth
