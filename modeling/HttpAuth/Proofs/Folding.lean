import HttpAuth.Proofs.Ascii

/-!
# Lower case that is ASCII

The lower case of a character outside ASCII has a character outside ASCII, but for the Kelvin sign.
So the texts whose lower case is a given text of ASCII without the letter k are those that differ
from it in the case of ASCII letters, and no others.  The lower case of any text does not depend on
the case of its ASCII letters.
-/

namespace HttpAuth
namespace Text

theorem toNat_ofNat {code : Nat} (valid : code.isValidChar) : (Char.ofNat code).toNat = code := by
  rw [Char.ofNat, dif_pos valid]
  rfl

/-! ## One character -/

/-- The only code point outside ASCII whose lower case is ASCII. -/
def kelvinSign : Nat := 0x212A

/-- The images of the run are characters outside ASCII. -/
def CaseRun.leavesAscii (run : CaseRun) : Bool :=
  0x80 ≤ run.image &&
    (run.image + (run.last - run.first) < 0xD800 ||
      (0xDFFF < run.image && run.image + (run.last - run.first) < 0x110000))

theorem lowerRuns_leave_ascii : ∀ run ∈ lowerRuns,
    run.last < 0x80 ∨ (run.first = kelvinSign ∧ run.last = kelvinSign) ∨
      run.leavesAscii = true := by
  decide +kernel

theorem CaseRun.imageOf?_eq_some {run : CaseRun} {code image : Nat}
    (found : run.imageOf? code = some image) :
    run.first ≤ code ∧ code ≤ run.last ∧ image = run.image + (code - run.first) := by
  rw [imageOf?] at found
  split at found
  · rename_i inside
    exact ⟨inside.1, inside.2.1, (Option.some.inj found).symm⟩
  · cases found

theorem mapRuns_lower {code : Nat} (outside : 0x80 ≤ code) (valid : code.isValidChar)
    (other : code ≠ kelvinSign) :
    0x80 ≤ mapRuns lowerRuns code ∧ (mapRuns lowerRuns code).isValidChar := by
  rw [mapRuns]
  cases search : lowerRuns.findSome? (·.imageOf? code) with
  | none => exact ⟨outside, valid⟩
  | some image =>
      obtain ⟨run, listed, found⟩ := List.exists_of_findSome?_eq_some search
      obtain ⟨lower, upper, rfl⟩ := CaseRun.imageOf?_eq_some found
      rcases lowerRuns_leave_ascii run listed with early | ⟨first, last⟩ | leaves
      · omega
      · omega
      · simp only [CaseRun.leavesAscii, Bool.and_eq_true, Bool.or_eq_true, decide_eq_true_eq]
          at leaves
        rw [Option.getD_some, Nat.isValidChar]
        omega

/-- The lower case of a character outside ASCII has a character outside ASCII, or it is a k. -/
theorem exists_mem_lowerChar {c : Char} (outside : 0x80 ≤ c.toNat) :
    ∃ d ∈ lowerChar c, 0x80 ≤ d.toNat ∨ d = 'k' := by
  rw [lowerChar, if_neg (Nat.not_lt.mpr outside)]
  by_cases kelvin : c.toNat = kelvinSign
  · rw [kelvin]
    exact ⟨'k', List.mem_singleton.mpr rfl, .inr rfl⟩
  by_cases dotted : c.toNat = 0x130
  · rw [dotted]
    exact ⟨Char.ofNat 0x307, by decide, .inl (by decide)⟩
  · have image := mapRuns_lower outside c.valid kelvin
    have single : mapCase lowerExpansions lowerRuns c.toNat = [mapRuns lowerRuns c.toNat] := by
      have different : (c.toNat == 0x130) = false := beq_false_of_ne dotted
      rw [mapCase, lowerExpansions, List.lookup_cons, different]
      rfl
    refine ⟨Char.ofNat (mapRuns lowerRuns c.toNat), by simp [single], .inl ?_⟩
    rw [toNat_ofNat image.2]
    exact image.1

/-! ## Texts -/

theorem exists_mem_lowerAfter (before : Text) {text : Text} {c : Char} (member : c ∈ text)
    (outside : 0x80 ≤ c.toNat) : ∃ d ∈ lowerAfter before text, 0x80 ≤ d.toNat ∨ d = 'k' := by
  induction text generalizing before with
  | nil => cases member
  | cons first rest induction =>
      rw [lowerAfter]
      rcases List.mem_cons.mp member with rfl | later
      · split
        · -- Both forms of a small sigma are outside ASCII.
          refine ⟨_, List.mem_append_left _ (List.mem_singleton.mpr rfl), .inl ?_⟩
          split <;> decide
        · obtain ⟨d, inside, kept⟩ := exists_mem_lowerChar outside
          exact ⟨d, List.mem_append_left _ inside, kept⟩
      · obtain ⟨d, inside, kept⟩ := induction (first :: before) later
        exact ⟨d, List.mem_append_right _ inside, kept⟩

theorem toLower_of_outside {c : Char} (outside : 0x80 ≤ c.toNat) : c.toLower = c := by
  refine dif_neg fun capital => ?_
  have upper : c.toNat ≤ 90 := UInt32.le_iff_toNat_le.mp capital.2
  omega

/-- A text of ASCII without the letter k is the lower case of the texts that differ from it in the
case of ASCII letters, and of no others. -/
theorem lower_eq_iff {text plain : Text} (ascii : plain.all (·.toNat < 0x80) = true)
    (no_k : 'k' ∉ plain) : lower text = plain ↔ text.map Char.toLower = plain := by
  simp only [List.all_eq_true, decide_eq_true_eq] at ascii
  constructor
  · rintro rfl
    refine (lower_eq_map fun c member => ?_).symm
    refine Nat.lt_of_not_le fun outside => ?_
    obtain ⟨d, inside, large | rfl⟩ := exists_mem_lowerAfter [] member outside
    · exact absurd (ascii d inside) (Nat.not_lt.mpr large)
    · exact no_k inside
  · rintro rfl
    refine lower_eq_map fun c member => ?_
    refine Nat.lt_of_not_le fun outside => ?_
    have kept := ascii c.toLower (List.mem_map_of_mem member)
    rw [toLower_of_outside outside] at kept
    omega

/-! ## The case of ASCII letters -/

/-- What holds of the characters of ASCII and of those that have no other case holds of all. -/
theorem forall_toLower (P : Char → Char → Prop)
    (ascii : ∀ code < 0x80, P (Char.ofNat code).toLower (Char.ofNat code))
    (same : ∀ c, P c c) (c : Char) : P c.toLower c := by
  rcases Nat.lt_or_ge c.toNat 0x80 with inside | outside
  · exact forall_ascii (fun c => P c.toLower c) ascii inside
  · rw [toLower_of_outside outside]
    exact same c

theorem toLower_eq_sigma_iff (c : Char) : c.toLower = 'Σ' ↔ c = 'Σ' :=
  forall_toLower (fun small c => small = 'Σ' ↔ c = 'Σ') (by decide) (fun _ => .rfl) c

theorem lowerChar_toLower (c : Char) : lowerChar c.toLower = lowerChar c :=
  forall_toLower (fun small c => lowerChar small = lowerChar c) (by decide) (fun _ => rfl) c

/-- The code point is that of an ASCII letter. -/
def IsLetter (code : Nat) : Prop :=
  (0x41 ≤ code ∧ code ≤ 0x5A) ∨ (0x61 ≤ code ∧ code ≤ 0x7A)

instance : DecidablePred IsLetter :=
  fun _ => inferInstanceAs (Decidable (_ ∨ _))

theorem caseIgnorableRanges_avoid_letters : ∀ range ∈ caseIgnorableRanges,
    range.2 < 0x41 ∨ (0x5A < range.1 ∧ range.2 < 0x61) ∨ 0x7A < range.1 := by
  decide +kernel

theorem IsLetter.not_ignorable {code : Nat} (letter : IsLetter code) :
    inRanges caseIgnorableRanges code = false := by
  rw [inRanges, List.any_eq_false]
  intro range listed inside
  simp only [Bool.and_eq_true, decide_eq_true_eq] at inside
  have apart := caseIgnorableRanges_avoid_letters range listed
  rw [IsLetter] at letter
  omega

theorem IsLetter.cased {code : Nat} (letter : IsLetter code) :
    inRanges casedRanges code = true := by
  rw [inRanges, List.any_eq_true]
  rcases letter with capital | small
  · exact ⟨(0x41, 0x5A), by decide, by simpa using capital⟩
  · exact ⟨(0x61, 0x7A), by decide, by simpa using small⟩

theorem toLower_eq_or_isLetter (c : Char) :
    c.toLower = c ∨ (IsLetter c.toLower.toNat ∧ IsLetter c.toNat) :=
  forall_toLower (fun small c => small = c ∨ (IsLetter small.toNat ∧ IsLetter c.toNat)) (by decide)
    (fun _ => .inl rfl) c

theorem inRanges_toLower (c : Char) :
    inRanges caseIgnorableRanges c.toLower.toNat = inRanges caseIgnorableRanges c.toNat ∧
      inRanges casedRanges c.toLower.toNat = inRanges casedRanges c.toNat := by
  rcases toLower_eq_or_isLetter c with same | ⟨small, letter⟩
  · rw [same]
    exact ⟨rfl, rfl⟩
  · rw [small.not_ignorable, letter.not_ignorable, small.cased, letter.cased]
    exact ⟨rfl, rfl⟩

theorem meetsCased_map_toLower (text : Text) :
    meetsCased (text.map Char.toLower) = meetsCased text := by
  induction text with
  | nil => rfl
  | cons c rest induction =>
      obtain ⟨ignorable, cased⟩ := inRanges_toLower c
      simp only [meetsCased, List.map_cons, List.dropWhile_cons, ignorable] at induction ⊢
      cases inRanges caseIgnorableRanges c.toNat with
      | true => exact induction
      | false => exact cased

theorem lowerAfter_map_toLower (before text : Text) :
    lowerAfter (before.map Char.toLower) (text.map Char.toLower) = lowerAfter before text := by
  induction text generalizing before with
  | nil => rfl
  | cons c rest induction =>
      have later := induction (c :: before)
      rw [List.map_cons] at later
      rw [List.map_cons, lowerAfter, lowerAfter, later, lowerChar_toLower, meetsCased_map_toLower,
        meetsCased_map_toLower]
      simp only [toLower_eq_sigma_iff]

/-- The lower case of a text does not depend on the case of its ASCII letters. -/
theorem lower_congr {text other : Text} (same : text.map Char.toLower = other.map Char.toLower) :
    lower text = lower other := by
  rw [lower, lower, ← lowerAfter_map_toLower [] text, same, lowerAfter_map_toLower]

end Text
end HttpAuth
