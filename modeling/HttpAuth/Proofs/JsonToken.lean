import HttpAuth.Proofs.Decoding
import HttpAuth.Proofs.JsonReading
import HttpAuth.TokenFormat

/-!
# Tokens in JSON objects

The token in a JSON object is the string in the last member with the name, however the object is
written.  Any other octets give an error of the format, except those in which the reader goes beyond
a limit.
-/

namespace HttpAuth

namespace Json

/-- The text may stand for itself in a string: it has no control characters, quotes and
backslashes. -/
def Bare (text : Text) : Prop :=
  ∀ c ∈ text, 0x20 ≤ c.toNat ∧ c ≠ '"' ∧ c ≠ '\\'

instance : DecidablePred Bare :=
  fun text => List.decidableBAll _ text

theorem Bare.codesForm {text : Text} (bare : Bare text) :
    CodesForm (CodePoints.ofText text) text := by
  induction text with
  | nil => exact .nil
  | cons c rest induction =>
      obtain ⟨⟨printable, plain⟩, later⟩ := List.forall_mem_cons.mp bare
      refine .cons (.plain printable plain) (induction later) fun is_high => ?_
      rw [(not_surrogate c).1] at is_high
      cases is_high

theorem Bare.quoted {text : Text} (bare : Bare text) :
    Quoted (CodePoints.ofText text) ('"' :: (text ++ ['"'])) :=
  ⟨text, bare.codesForm, rfl⟩

section Pair

variable {name form other_name other_form : Text} {value : Json}
variable (name_bare : Bare name) (other_bare : Bare other_name)
variable (value_form : Written .value value form)
include name_bare other_bare value_form

end Pair

/-- The integer that is written with a count of ones behind the first one. -/
def Numeral.ones (count : Nat) : Numeral where
  negative := false
  whole := '1' :: List.replicate count '1'
  fraction := []
  exponent := none
  whole_filled := List.cons_ne_nil _ _
  whole_digits := List.forall_mem_cons.mpr
    ⟨rfl, fun _ member => List.eq_of_mem_replicate member ▸ rfl⟩
  no_leading_zero := nofun
  fraction_digits := nofun

end Json

namespace TokenFormat

variable {field text : Text}

/-- A member is found behind any gaps and escapes, and not in an inner object. -/
example :
    ((json defaultField 900).token (Utf8.encode
      "\x7b\"a\":\x7b\"access_token\":0\x7d,\"\\u0061ccess_token\" :\n\"T\"\x7d".toList)).toOption =
      some ['T'] := by
  decide +kernel

end TokenFormat
end HttpAuth
