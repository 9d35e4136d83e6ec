import HttpAuth.Proofs.Cutting
import HttpAuth.Proofs.Encoding
import HttpAuth.Proofs.Run
import HttpAuth.Authenticator

/-!
# Credentials that are read back

Octets are read back from their Base64 form, group by group, and so the text of a user name, a colon
and a password is read back from the header that a basic authenticator answers.  The header
therefore tells the user name and the password, as long as the user name has no colon.
-/

namespace HttpAuth

/-! ## Base64 -/

namespace Base64

/-- The characters for the six-bit values, in order. -/
def alphabet : Text :=
  "ABCDEFGHIJKLMNOPQRSTUVWXYZabcdefghijklmnopqrstuvwxyz0123456789+/".toList

/-- The six-bit value of a character. -/
def value? (c : Char) : Option Nat :=
  alphabet.idxOf? c

/-- The number of twenty-four bits that four characters write. -/
def number? (a b c d : Char) : Option Nat := do
  return (((← value? a) * 0x40 + (← value? b)) * 0x40 + (← value? c)) * 0x40 + (← value? d)

/-- The three octets of a number of twenty-four bits. -/
def octetsOf (number : Nat) : Octets :=
  [UInt8.ofNat (number / 0x10000), UInt8.ofNat (number / 0x100 % 0x100),
    UInt8.ofNat (number % 0x100)]

/-- Read groups of four characters.  Each equals sign at the end of the last group counts as zero
and leaves out one octet. -/
def decode? : Text → Option Octets
  | [] => some []
  | [a, b, '=', '='] => (number? a b 'A' 'A').map fun number => (octetsOf number).take 1
  | [a, b, c, '='] => (number? a b c 'A').map fun number => (octetsOf number).take 2
  | a :: b :: c :: d :: rest => do return octetsOf (← number? a b c d) ++ (← decode? rest)
  | _ => none

/-- The text has whole groups of four characters, all of the alphabet but for at most two equals
signs at the end. -/
structure Padded (text : Text) : Prop where
  /-- The characters and the equals signs. -/
  parts : ∃ digits padding, text = digits ++ List.replicate padding '=' ∧ padding ≤ 2 ∧
    ∀ c ∈ digits, c ∈ alphabet
  /-- The groups are whole. -/
  groups : 4 ∣ text.length

theorem digit_spec : ∀ value < 0x40,
    value? (digit value) = some value ∧ digit value ∈ alphabet ∧ digit value ≠ '=' := by
  decide +kernel

theorem number?_digits {a b c d : Nat} (a_small : a < 0x40) (b_small : b < 0x40)
    (c_small : c < 0x40) (d_small : d < 0x40) :
    number? (digit a) (digit b) (digit c) (digit d) =
      some (((a * 0x40 + b) * 0x40 + c) * 0x40 + d) := by
  simp only [number?, (digit_spec a a_small).1, (digit_spec b b_small).1, (digit_spec c c_small).1,
    (digit_spec d d_small).1]
  rfl

/-- The octets of a number are those that it is made of. -/
theorem octetsOf_eq (a b c : UInt8) :
    octetsOf (a.toNat * 0x10000 + b.toNat * 0x100 + c.toNat) = [a, b, c] := by
  have b_lt := b.toNat_lt
  have c_lt := c.toNat_lt
  have first : (a.toNat * 0x10000 + b.toNat * 0x100 + c.toNat) / 0x10000 = a.toNat := by omega
  have second : (a.toNat * 0x10000 + b.toNat * 0x100 + c.toNat) / 0x100 % 0x100 = b.toNat := by
    omega
  have third : (a.toNat * 0x10000 + b.toNat * 0x100 + c.toNat) % 0x100 = c.toNat := by omega
  rw [octetsOf, first, second, third, UInt8.ofNat_toNat, UInt8.ofNat_toNat, UInt8.ofNat_toNat]

/-- A group of four characters is read as the three octets that it writes. -/
theorem number?_group (a b c : UInt8) :
    number? (digit (a.toNat / 4)) (digit (a.toNat % 4 * 16 + b.toNat / 16))
        (digit (b.toNat % 16 * 4 + c.toNat / 64)) (digit (c.toNat % 64)) =
      some (a.toNat * 0x10000 + b.toNat * 0x100 + c.toNat) := by
  have a_lt := a.toNat_lt
  have b_lt := b.toNat_lt
  have c_lt := c.toNat_lt
  rw [number?_digits (by omega) (by omega) (by omega) (by omega)]
  congr 1
  omega

/-- Octets are read back from their Base64 form. -/
theorem decode?_encode (octets : Octets) : decode? (encode octets) = some octets := by
  induction octets using encode.induct with
  | case1 => rfl
  | case2 a =>
      have group : number? (digit (a.toNat / 4)) (digit (a.toNat % 4 * 16)) 'A' 'A' = _ :=
        number?_group a 0 0
      rw [encode, decode?, group, Option.map_some, octetsOf_eq]
      rfl
  | case3 a b =>
      have group : number? (digit (a.toNat / 4)) (digit (a.toNat % 4 * 16 + b.toNat / 16))
          (digit (b.toNat % 16 * 4)) 'A' = _ :=
        number?_group a b 0
      have third := (digit_spec (b.toNat % 16 * 4) (by omega)).2.2
      rw [encode, decode?, group, Option.map_some, octetsOf_eq]
      · rfl
      · exact third
  | case4 a b c rest induction =>
      have fourth := (digit_spec (c.toNat % 64) (by omega)).2.2
      rw [encode, decode?, number?_group, induction]
      · simp only [Option.bind_eq_bind, Option.bind_some, Option.pure_def, octetsOf_eq]
        rfl
      · exact fun _ equals => absurd equals fourth
      · exact fun equals => absurd equals fourth

/-- The Base64 form of octets is padded. -/
theorem padded_encode (octets : Octets) : Padded (encode octets) := by
  have listed {value : Nat} (small : value < 0x40) : digit value ∈ alphabet :=
    (digit_spec value small).2.1
  induction octets using encode.induct with
  | case1 => exact ⟨⟨[], 0, rfl, by decide, List.forall_mem_nil _⟩, ⟨0, rfl⟩⟩
  | case2 a =>
      have bound := a.toNat_lt
      refine ⟨⟨[digit (a.toNat / 4), digit (a.toNat % 4 * 16)], 2, rfl, by decide, ?_⟩, ⟨1, rfl⟩⟩
      simp only [List.forall_mem_cons]
      exact ⟨listed (by omega), listed (by omega), List.forall_mem_nil _⟩
  | case3 a b =>
      have bound := a.toNat_lt
      have next_bound := b.toNat_lt
      refine ⟨⟨[digit (a.toNat / 4), digit (a.toNat % 4 * 16 + b.toNat / 16),
        digit (b.toNat % 16 * 4)], 1, rfl, by decide, ?_⟩, ⟨1, rfl⟩⟩
      simp only [List.forall_mem_cons]
      exact ⟨listed (by omega), listed (by omega), listed (by omega), List.forall_mem_nil _⟩
  | case4 a b c rest induction =>
      have bound := a.toNat_lt
      have next_bound := b.toNat_lt
      obtain ⟨⟨digits, padding, parts, few, members⟩, count, groups⟩ := induction
      constructor
      · refine ⟨digit (a.toNat / 4) :: digit (a.toNat % 4 * 16 + b.toNat / 16) ::
          digit (b.toNat % 16 * 4 + c.toNat / 64) :: digit (c.toNat % 64) :: digits, padding, ?_,
          few, ?_⟩
        · rw [encode, parts]
          rfl
        · have third := c.toNat_lt
          simp only [List.forall_mem_cons]
          exact ⟨listed (by omega), listed (by omega), listed (by omega), listed (by omega),
            members⟩
      · refine ⟨count + 1, ?_⟩
        simp only [encode, List.length_cons, groups]
        omega

end Base64

/-! ## A user name and a password -/

namespace Authenticator

open Run

/-- Equal headers carry equal texts. -/
theorem eq_text_of_basicHeaders {username password other_name other_password : Text}
    (same : basicHeaders username password = basicHeaders other_name other_password) :
    username ++ ':' :: password = other_name ++ ':' :: other_password := by
  have values : "Basic ".toList ++ Base64.encode (Utf8.encode (username ++ ':' :: password)) =
      "Basic ".toList ++ Base64.encode (Utf8.encode (other_name ++ ':' :: other_password)) :=
    (Prod.mk.inj (List.cons.inj (congrArg Headers.items same)).1).2
  have octets := congrArg Base64.decode? (List.append_cancel_left values)
  rw [Base64.decode?_encode, Base64.decode?_encode] at octets
  have texts := congrArg Utf8.decode (Option.some.inj octets)
  rw [Utf8.decode_encode, Utf8.decode_encode] at texts
  exact Except.ok.inj texts

/-- A basic authenticator answers any headers with one header.  Its value is the padded Base64 form,
on one line, of octets that write the user name, a colon and the password.  A user name without a
colon ends at the first colon, and so the answer of a basic authenticator with another user name
without a colon or another password is different. -/
theorem basic_answer_recoverable (username password : Text) :
    ∃ encoded octets,
      (∀ given network, finish ((basic username password).answer given) network =
        (network, .ok ⟨[("Authorization".toList, "Basic ".toList ++ encoded)]⟩)) ∧
      Base64.Padded encoded ∧ Base64.decode? encoded = some octets ∧
      Utf8.decode octets = .ok (username ++ ':' :: password) ∧
      (':' ∉ username →
        Text.cut ':' (username ++ ':' :: password) = (username, some password) ∧
        ∀ other_name other_password, ':' ∉ other_name → ∀ given network,
          result ((basic username password).answer given) network =
              result ((basic other_name other_password).answer given) network →
            username = other_name ∧ password = other_password) := by
  refine ⟨Base64.encode (Utf8.encode (username ++ ':' :: password)), _, fun given network => rfl,
    Base64.padded_encode _, Base64.decode?_encode _, Utf8.decode_encode _, fun plain =>
    ⟨Text.cut_append_mark plain password, ?apart⟩⟩
  case apart =>
    intro other_name other_password other_plain given network same
    have texts := eq_text_of_basicHeaders (Except.ok.inj same)
    have parts := congrArg (Text.cut ':') texts
    rw [Text.cut_append_mark plain, Text.cut_append_mark other_plain] at parts
    exact ⟨(Prod.mk.inj parts).1, Option.some.inj (Prod.mk.inj parts).2⟩

/-- A character of two octets, and a last group of one. -/
example : basicHeaders ['é'] ['x'] = .single headerName "Basic w6k6eA==".toList := by
  decide +kernel

end Authenticator
end HttpAuth
