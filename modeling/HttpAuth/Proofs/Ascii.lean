import HttpAuth.Text.Case

/-!
# Characters of ASCII

Letters and digits are ranges of code points, so that membership is a matter of arithmetic, and in a
text of ASCII small letters are found one by one.
-/

namespace HttpAuth
namespace Text

variable {c : Char}

theorem isDigit_iff : c.isDigit = true ↔ 48 ≤ c.toNat ∧ c.toNat ≤ 57 := by
  simp only [Char.isDigit, Bool.and_eq_true, decide_eq_true_eq, UInt32.le_iff_toNat_le, ge_iff_le]
  rfl

theorem isAlphanum_iff : c.isAlphanum = true ↔
    ((65 ≤ c.toNat ∧ c.toNat ≤ 90) ∨ (97 ≤ c.toNat ∧ c.toNat ≤ 122)) ∨
      (48 ≤ c.toNat ∧ c.toNat ≤ 57) := by
  have alphanum_eq : c.isAlphanum =
      ((decide (c.val ≥ 'A'.val ∧ c.val ≤ 'Z'.val) ||
        (decide (c.val ≥ 'a'.val) && decide (c.val ≤ 'z'.val))) || c.isDigit) := rfl
  simp only [alphanum_eq, Bool.or_eq_true, Bool.and_eq_true, decide_eq_true_eq, isDigit_iff,
    UInt32.le_iff_toNat_le, ge_iff_le]
  rfl

/-- The character is a visible one of ASCII. -/
def IsVisible (c : Char) : Prop :=
  0x20 < c.toNat ∧ c.toNat < 0x80

instance : DecidablePred IsVisible :=
  fun _ => inferInstanceAs (Decidable (_ ∧ _))

theorem isVisible_of_isAlphanum (alphanum : c.isAlphanum = true) : IsVisible c := by
  have ranges := isAlphanum_iff.mp alphanum
  rw [IsVisible]
  omega

/-- What holds of the first code points holds of the characters of ASCII. -/
theorem forall_ascii (P : Char → Prop) (holds : ∀ code < 0x80, P (Char.ofNat code))
    (ascii : c.toNat < 0x80) : P c := by
  have found := holds c.toNat ascii
  rwa [Char.ofNat_toNat] at found

/-- What is checked of each character of a list holds of its members. -/
theorem forall_listed {chars : Text} (P : Char → Prop) [DecidablePred P]
    (holds : chars.all (decide <| P ·) = true) : ∀ c ∈ chars, P c :=
  fun c member => of_decide_eq_true (List.all_eq_true.mp holds c member)

theorem isAlpha_of_toLower (alpha : c.toLower.isAlpha = true) : c.isAlpha = true := by
  have alpha_eq : c.isAlpha = (c.isUpper || c.isLower) := rfl
  by_cases capital : c.isUpper = true
  · rw [alpha_eq, capital, Bool.true_or]
  · have upper_eq : c.isUpper = decide (c.val ≥ 'A'.val ∧ c.val ≤ 'Z'.val) := rfl
    have same : c.toLower = c := dif_neg (by simpa [upper_eq] using capital)
    rwa [same] at alpha

theorem lower_eq_map {text : Text} (ascii : ∀ c ∈ text, c.toNat < 0x80) :
    lower text = text.map Char.toLower := by
  have single {c : Char} : c.toNat < 0x80 → lowerChar c = [c.toLower] :=
    forall_ascii (fun c => lowerChar c = [c.toLower]) (by decide)
  -- A character of ASCII is no sigma, and so it does not matter what stands before it.
  have general : ∀ before, lowerAfter before text = text.map Char.toLower := by
    induction text with
    | nil => exact fun _ => rfl
    | cons c rest induction =>
        intro before
        have small := ascii c List.mem_cons_self
        have later := induction fun other member => ascii other (List.mem_cons_of_mem c member)
        have not_sigma : c ≠ 'Σ' := by
          rintro rfl
          exact absurd small (by decide)
        rw [lowerAfter, if_neg not_sigma, single small, later]
        rfl
  exact general []

end Text
end HttpAuth
