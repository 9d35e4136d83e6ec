import HttpAuth.Hex
import HttpAuth.Utf8

/-!
# Percent-encoding

A text is percent-encoded through its UTF-8 octets: an octet that is an unreserved or safe ASCII
character stands for itself, any other is written with two hexadecimal digits.  Decoding leaves a
malformed escape as it is.
-/

namespace HttpAuth
namespace Percent

/-- An ASCII letter, a digit, or one of the four marks that are never encoded. -/
def isUnreserved (c : Char) : Bool :=
  c.isAlphanum || c == '_' || c == '.' || c == '-' || c == '~'

/-- One octet in encoded form. -/
def encodeOctet (safe : List Char) (b : UInt8) : Text :=
  let c := Char.ofNat b.toNat
  if b.toNat < 0x80 ∧ (isUnreserved c ∨ c ∈ safe) then
    [c]
  else
    ['%', Hex.capital (b.toNat / 16), Hex.capital (b.toNat % 16)]

/-- Percent-encode a text, leaving the safe characters as they are. -/
def encode (safe : List Char) (text : Text) : Text :=
  (Utf8.encode text).flatMap (encodeOctet safe)

/-- Replace each well-formed escape by the octet it denotes. -/
def unescape : Octets → Octets
  | [] => []
  | b :: rest =>
      if b = 0x25 then
        match rest with
        | high :: low :: tail =>
            match Hex.value? (Char.ofNat high.toNat), Hex.value? (Char.ofNat low.toNat) with
            | some h, some l => UInt8.ofNat (h * 16 + l) :: unescape tail
            | _, _ => b :: unescape (high :: low :: tail)
        | short => b :: unescape short
      else
        b :: unescape rest

/-- Percent-decode a text, with U+FFFD for octets that are not UTF-8. -/
def decode (text : Text) : Text :=
  Utf8.decodeLenient (unescape (Utf8.encode text))

/-- Percent-decode a text whose octets must be UTF-8. -/
def decodeStrict (text : Text) : Except Utf8.Error Text :=
  Utf8.decode (unescape (Utf8.encode text))

end Percent
end HttpAuth
