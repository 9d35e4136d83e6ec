import HttpAuth.Text.Basic

/-!
# Hexadecimal digits

Small digits for quotations and for octets, capital digits for percent-encoding, and the reading of
either.
-/

namespace HttpAuth
namespace Hex

/-- The small digit of a value below sixteen. -/
def digit (value : Nat) : Char :=
  if value < 10 then Char.ofNat (0x30 + value) else Char.ofNat (0x57 + value)

/-- The capital digit of a value below sixteen. -/
def capital (value : Nat) : Char :=
  if value < 10 then Char.ofNat (0x30 + value) else Char.ofNat (0x37 + value)

/-- The value of a digit in either case. -/
def value? (c : Char) : Option Nat :=
  let n := c.toNat
  if 0x30 ≤ n ∧ n ≤ 0x39 then some (n - 0x30)
  else if 0x41 ≤ n ∧ n ≤ 0x46 then some (n - 0x37)
  else if 0x61 ≤ n ∧ n ≤ 0x66 then some (n - 0x57)
  else none

/-- The last digits of a number, in a fixed count. -/
def digits : Nat → Nat → Text
  | 0, _ => []
  | count + 1, value => digits count (value / 16) ++ [digit (value % 16)]

/-- Two digits for each octet. -/
def ofOctets (octets : Octets) : Text :=
  octets.flatMap fun b => digits 2 b.toNat

/-- The octets that pairs of digits write. -/
def toOctets? : Text → Option Octets
  | [] => some []
  | [_] => none
  | high :: low :: rest => do
      let h ← value? high
      let l ← value? low
      return UInt8.ofNat (h * 16 + l) :: (← toOctets? rest)

end Hex
end HttpAuth
