import HttpAuth.Hex

/-!
# UTF-8

Writing a text as octets, and reading octets back one at a time.  Reading yields a list of marks,
each a character or a fault over the longest start of a sequence that could still have been valid.
The strict reading stops at the first fault; the lenient one puts U+FFFD in the place of each.
-/

namespace HttpAuth
namespace Utf8

/-- The octets of one character. -/
def encodeChar (c : Char) : Octets :=
  let code := c.toNat
  if code < 0x80 then
    [UInt8.ofNat code]
  else if code < 0x800 then
    [UInt8.ofNat (0xC0 + code / 0x40), UInt8.ofNat (0x80 + code % 0x40)]
  else if code < 0x10000 then
    [UInt8.ofNat (0xE0 + code / 0x1000), UInt8.ofNat (0x80 + code / 0x40 % 0x40),
      UInt8.ofNat (0x80 + code % 0x40)]
  else
    [UInt8.ofNat (0xF0 + code / 0x40000), UInt8.ofNat (0x80 + code / 0x1000 % 0x40),
      UInt8.ofNat (0x80 + code / 0x40 % 0x40), UInt8.ofNat (0x80 + code % 0x40)]

/-- The octets of a text. -/
def encode (text : Text) : Octets :=
  text.flatMap encodeChar

/-- Why octets are not a character. -/
inductive Fault where
  /-- No character starts with this octet. -/
  | start
  /-- The sequence is followed by an octet that cannot continue it. -/
  | continuation
  /-- The octets end inside the sequence. -/
  | ending
  deriving Repr, DecidableEq

/-- A fault and the octets it covers. -/
structure Error where
  /-- Why the octets are not a character. -/
  fault : Fault
  /-- First octet covered. -/
  first : UInt8
  /-- Index of the first octet covered. -/
  position : Nat
  /-- Number of octets covered. -/
  length : Nat
  deriving Repr, DecidableEq

/-- What reading finds: a character or a fault. -/
inductive Mark where
  /-- A whole character. -/
  | char (c : Char)
  /-- Octets that are no character. -/
  | fault (error : Error)
  deriving Repr, DecidableEq

/-- A sequence that has begun and is still owed octets. -/
structure Pending where
  /-- First octet of the sequence. -/
  first : UInt8
  /-- Octets read so far. -/
  taken : Nat
  /-- Octets owed after the next one. -/
  owed : Nat
  /-- Least value of the next octet. -/
  low : Nat
  /-- Greatest value of the next octet. -/
  high : Nat
  /-- Number formed by the bits read so far. -/
  bits : Nat
  deriving Repr, DecidableEq

/-- The sequence that an octet begins, if any. -/
def begin? (b : UInt8) : Option Pending :=
  let n := b.toNat
  if 0xC2 ≤ n ∧ n ≤ 0xDF then some ⟨b, 1, 0, 0x80, 0xBF, n - 0xC0⟩
  else if n = 0xE0 then some ⟨b, 1, 1, 0xA0, 0xBF, 0⟩
  else if n = 0xED then some ⟨b, 1, 1, 0x80, 0x9F, 0xD⟩
  else if 0xE1 ≤ n ∧ n ≤ 0xEF then some ⟨b, 1, 1, 0x80, 0xBF, n - 0xE0⟩
  else if n = 0xF0 then some ⟨b, 1, 2, 0x90, 0xBF, 0⟩
  else if 0xF1 ≤ n ∧ n ≤ 0xF3 then some ⟨b, 1, 2, 0x80, 0xBF, n - 0xF0⟩
  else if n = 0xF4 then some ⟨b, 1, 2, 0x80, 0x8F, 4⟩
  else none

/-- The fault of a sequence that is broken off before a position. -/
def Pending.broken (pending : Pending) (fault : Fault) (position : Nat) : Mark :=
  .fault ⟨fault, pending.first, position - pending.taken, pending.taken⟩

/-- Read an octet between characters. -/
def start (position : Nat) (b : UInt8) : List Mark × Option Pending :=
  if b.toNat < 0x80 then
    ([.char (Char.ofNat b.toNat)], none)
  else
    match begin? b with
    | some pending => ([], some pending)
    | none => ([.fault ⟨.start, b, position, 1⟩], none)

/-- Read one octet. -/
def step (position : Nat) (b : UInt8) : Option Pending → List Mark × Option Pending
  | none => start position b
  | some pending =>
      if pending.low ≤ b.toNat ∧ b.toNat ≤ pending.high then
        let bits := pending.bits * 0x40 + (b.toNat - 0x80)
        match pending.owed with
        | 0 => ([.char (Char.ofNat bits)], none)
        | owed + 1 => ([], some ⟨pending.first, pending.taken + 1, owed, 0x80, 0xBF, bits⟩)
      else
        ((pending.broken .continuation position) :: (start position b).1, (start position b).2)

/-- Read octets from a position on. -/
def marksFrom (position : Nat) (pending : Option Pending) : Octets → List Mark
  | [] =>
      match pending with
      | none => []
      | some pending => [pending.broken .ending position]
  | b :: rest =>
      (step position b pending).1 ++ marksFrom (position + 1) (step position b pending).2 rest

/-- Everything found in the octets, in order. -/
def marks (octets : Octets) : List Mark :=
  marksFrom 0 none octets

/-- The characters of marks without a fault, or else the first fault. -/
def strict : List Mark → Except Error Text
  | [] => .ok []
  | .char c :: rest => (strict rest).map (c :: ·)
  | .fault error :: _ => .error error

/-- The character that stands for a mark when faults are let through. -/
def Mark.lenient : Mark → Char
  | .char c => c
  | .fault _ => Char.ofNat 0xFFFD

/-- The text that the octets write, or the first fault in them. -/
def decode (octets : Octets) : Except Error Text :=
  strict (marks octets)

/-- The text that the octets write, with U+FFFD for each fault. -/
def decodeLenient (octets : Octets) : Text :=
  (marks octets).map Mark.lenient

/-- The wording of a fault. -/
def Fault.message : Fault → String
  | .start => "invalid start byte"
  | .continuation => "invalid continuation byte"
  | .ending => "unexpected end of data"

/-- The wording of a reading error. -/
def Error.message (error : Error) : String :=
  if error.length = 1 then
    "'utf-8' codec can't decode byte 0x" ++ String.ofList (Hex.digits 2 error.first.toNat)
      ++ " in position " ++ toString error.position ++ ": " ++ error.fault.message
  else
    "'utf-8' codec can't decode bytes in position " ++ toString error.position ++ "-"
      ++ toString (error.position + error.length - 1) ++ ": " ++ error.fault.message

end Utf8
end HttpAuth
