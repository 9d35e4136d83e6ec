import HttpAuth.Proofs.Folding
import HttpAuth.Text.Blank

/-!
# Upper case

What upper case makes of a character is never empty, stays as it is in upper case, and has no blank
unless the character is one.  So upper case is idempotent, and the blanks of a text in upper case
are those of the text.
-/

namespace HttpAuth
namespace Text

/-! ## The tables -/

namespace CaseRun

/-- The image of the last code point of a run. -/
def imageLast (run : CaseRun) : Nat :=
  run.image + (run.last - run.first)

/-- No image of the first run is mapped by the second, for reasons of order or of parity. -/
def apart (run other : CaseRun) : Bool :=
  run.imageLast.blt other.first || other.last.blt run.image ||
    (other.step == 2 && (run.step == 2 || run.first == run.last) &&
      run.image % 2 != other.first % 2)

/-- The code point lies before or behind the images of the run. -/
def misses (run : CaseRun) (code : Nat) : Bool :=
  code.blt run.image || run.imageLast.blt code

theorem image_bounds {run : CaseRun} {code image : Nat} (found : run.imageOf? code = some image) :
    run.image ≤ image ∧ image ≤ run.imageLast := by
  obtain ⟨lower, upper, rfl⟩ := imageOf?_eq_some found
  rw [imageLast]
  omega

theorem imageOf?_of_apart {run other : CaseRun} (apart : run.apart other = true)
    {code image : Nat} (found : run.imageOf? code = some image) : other.imageOf? image = none := by
  have step : (code - run.first) % run.step = 0 := by
    rw [imageOf?] at found
    split at found
    · rename_i inside
      exact inside.2.2
    · cases found
  obtain ⟨lower, upper, image_eq⟩ := imageOf?_eq_some found
  have bounds := image_bounds found
  refine if_neg ?_
  rintro ⟨first, last, multiple⟩
  simp only [CaseRun.apart, Bool.or_eq_true, Bool.and_eq_true, Nat.blt_eq, beq_iff_eq,
    bne_iff_ne] at apart
  rcases apart with (early | late) | ⟨⟨even, single⟩, parity⟩
  · omega
  · omega
  · rw [even] at multiple
    rcases single with even_run | single
    · rw [even_run] at step
      omega
    · omega

/-- The images of the run are code points outside ASCII, or capitals of ASCII. -/
def makesCapitals (run : CaseRun) : Bool :=
  run.leavesAscii || (0x41 ≤ run.image && run.imageLast ≤ 0x5A)

/-- No image of the run is a blank. -/
def makesNoBlank (run : CaseRun) : Bool :=
  blankRanges.all fun range => run.imageLast.blt range.1 || range.2.blt run.image

end CaseRun

theorem upperRuns_make_capitals : ∀ run ∈ upperRuns,
    run.makesCapitals = true ∧ run.makesNoBlank = true := by
  decide +kernel

theorem upperRuns_apart : (upperRuns.all fun run => upperRuns.all (run.apart ·)) = true := by
  decide +kernel

theorem upperRuns_miss_expansions : (upperRuns.all fun run => upperExpansions.all (run.misses ·.1))
    = true := by
  decide +kernel

/-! ## One character -/

/-- The character is none that changes in upper case, and no blank. -/
def IsCapital (c : Char) : Prop :=
  upperChar c = [c] ∧ isBlank c = false

instance : DecidablePred IsCapital :=
  fun _ => inferInstanceAs (Decidable (_ ∧ _))

theorem expansions_are_capital : ∀ expansion ∈ upperExpansions,
    expansion.2 ≠ [] ∧ ∀ code ∈ expansion.2, IsCapital (Char.ofNat code) := by
  decide +kernel

/-- A capital of ASCII. -/
theorem isCapital_of_ascii {code : Nat} (first : 0x41 ≤ code) (last : code ≤ 0x5A) :
    IsCapital (Char.ofNat code) := by
  have listed : ∀ code < 0x5B, 0x41 ≤ code → IsCapital (Char.ofNat code) := by decide
  exact listed code (by omega) first

theorem lookup_eq_none {expansions : List (Nat × List Nat)} {code : Nat}
    (other : ∀ expansion ∈ expansions, expansion.1 ≠ code) : expansions.lookup code = none := by
  rw [List.lookup_eq_none_iff]
  intro expansion member
  exact bne_iff_ne.mpr (other expansion member).symm

/-- The images of the runs are capitals. -/
theorem isCapital_of_image {code image : Nat}
    (found : upperRuns.findSome? (·.imageOf? code) = some image) :
    IsCapital (Char.ofNat image) := by
  obtain ⟨run, listed, image_eq⟩ := List.exists_of_findSome?_eq_some found
  obtain ⟨lower, upper⟩ := CaseRun.image_bounds image_eq
  obtain ⟨capitals, no_blank⟩ := upperRuns_make_capitals run listed
  rw [CaseRun.makesCapitals, Bool.or_eq_true, Bool.and_eq_true, decide_eq_true_iff,
    decide_eq_true_iff] at capitals
  rcases capitals with leaves | ⟨first, last⟩
  · simp only [CaseRun.leavesAscii, Bool.and_eq_true, Bool.or_eq_true, decide_eq_true_eq]
      at leaves
    rw [CaseRun.imageLast] at upper
    have valid : image.isValidChar := by
      rw [Nat.isValidChar]
      omega
    have unexpanded : upperExpansions.lookup image = none := by
      refine lookup_eq_none fun expansion member => ?_
      have missed := List.all_eq_true.mp (List.all_eq_true.mp upperRuns_miss_expansions run listed)
        expansion member
      simp only [CaseRun.misses, CaseRun.imageLast, Bool.or_eq_true, Nat.blt_eq] at missed
      omega
    have unmapped : upperRuns.findSome? (·.imageOf? image) = none := by
      rw [List.findSome?_eq_none_iff]
      intro other member
      have apart := List.all_eq_true.mp (List.all_eq_true.mp upperRuns_apart run listed) other
        member
      exact CaseRun.imageOf?_of_apart apart image_eq
    constructor
    · rw [upperChar, toNat_ofNat valid, if_neg (by omega), mapCase, unexpanded, mapRuns, unmapped]
      rfl
    · refine Bool.eq_false_iff.mpr fun blank => ?_
      rw [isBlank, inRanges, List.any_eq_true, toNat_ofNat valid] at blank
      obtain ⟨range, member, inside⟩ := blank
      have missed := List.all_eq_true.mp no_blank range member
      simp only [CaseRun.imageLast, Bool.or_eq_true, Nat.blt_eq] at missed
      simp only [Bool.and_eq_true, decide_eq_true_eq] at inside
      omega
  · exact isCapital_of_ascii (by omega) (by omega)

/-- Outside ASCII the upper case of a character is an expansion of the table, one image of a run, or
the character itself. -/
theorem upperChar_outside {c : Char} (outside : 0x80 ≤ c.toNat) :
    (∃ expansion ∈ upperExpansions, upperChar c = expansion.2.map Char.ofNat) ∨
      (∃ image, upperRuns.findSome? (·.imageOf? c.toNat) = some image ∧
        upperChar c = [Char.ofNat image]) ∨
      upperChar c = [c] := by
  rw [upperChar, if_neg (Nat.not_lt.mpr outside), mapCase]
  cases expanded : upperExpansions.lookup c.toNat with
  | some codes =>
      obtain ⟨before, after, split, -⟩ := List.lookup_eq_some_iff.mp expanded
      refine .inl ⟨(c.toNat, codes), ?_, rfl⟩
      rw [split]
      exact List.mem_append_right _ List.mem_cons_self
  | none =>
      rw [mapRuns]
      cases mapped : upperRuns.findSome? (·.imageOf? c.toNat) with
      | some image => exact .inr (.inl ⟨image, rfl, rfl⟩)
      | none =>
          refine .inr (.inr ?_)
          rw [Option.getD_none, Option.getD_none, List.map_singleton, Char.ofNat_toNat]

/-- Upper case makes capitals of a character, or leaves it as it is. -/
theorem upperChar_cases (c : Char) :
    upperChar c = [c] ∨ upperChar c ≠ [] ∧ ∀ d ∈ upperChar c, IsCapital d := by
  by_cases ascii : c.toNat < 0x80
  · rw [upperChar, if_pos ascii]
    split
    · rename_i small
      simp only [isAsciiLower, Bool.and_eq_true, decide_eq_true_eq] at small
      refine .inr ⟨List.cons_ne_nil _ _, fun d member => ?_⟩
      rw [List.mem_singleton.mp member]
      exact isCapital_of_ascii (by omega) (by omega)
    · exact .inl rfl
  · rcases upperChar_outside (Nat.le_of_not_lt ascii) with
      ⟨expansion, listed, upper_eq⟩ | ⟨image, mapped, upper_eq⟩ | same
    · obtain ⟨filled, capitals⟩ := expansions_are_capital expansion listed
      rw [upper_eq]
      refine .inr ⟨by simpa using filled, fun d member => ?_⟩
      obtain ⟨code, inside, rfl⟩ := List.mem_map.mp member
      exact capitals code inside
    · rw [upper_eq]
      refine .inr ⟨List.cons_ne_nil _ _, fun d member => ?_⟩
      rw [List.mem_singleton.mp member]
      exact isCapital_of_image mapped
    · exact .inl same

/-! ## Texts -/

/-- A text in upper case is its own upper case. -/
theorem upper_upper (text : Text) : upper (upper text) = upper text := by
  have settled (c : Char) : (upperChar c).flatMap upperChar = upperChar c := by
    rcases upperChar_cases c with same | ⟨-, capitals⟩
    · simp [same]
    · have single : (upperChar c).map upperChar = (upperChar c).map fun d => [d] :=
        List.map_congr_left fun d member => (capitals d member).1
      rw [List.flatMap_def, single, ← List.flatMap_def, List.flatMap_singleton']
  rw [upper, upper, List.flatMap_assoc, funext settled]

/-- The blanks of a text in upper case are blanks of the text. -/
theorem mem_of_mem_upper {text : Text} {c : Char} (blank : isBlank c = true)
    (member : c ∈ upper text) : c ∈ text := by
  obtain ⟨d, inside, image⟩ := List.mem_flatMap.mp member
  rcases upperChar_cases d with same | ⟨-, capitals⟩
  · rw [same] at image
    rwa [List.mem_singleton.mp image]
  · rw [(capitals c image).2] at blank
    cases blank

theorem upper_cons_ne_nil (c : Char) (rest : Text) : upper (c :: rest) ≠ [] := by
  rw [upper, List.flatMap_cons]
  rcases upperChar_cases c with same | ⟨filled, -⟩
  · exact List.append_ne_nil_of_left_ne_nil (by simp [same]) _
  · exact List.append_ne_nil_of_left_ne_nil filled _

/-- A text that starts with no blank has none at its start in upper case. -/
theorem not_blank_of_head?_upper {text : Text}
    (starts : ∀ c, text.head? = some c → isBlank c = false) {c : Char}
    (head : (upper text).head? = some c) : isBlank c = false := by
  cases text with
  | nil => cases head
  | cons first rest =>
      rw [upper, List.flatMap_cons] at head
      rcases upperChar_cases first with same | ⟨filled, capitals⟩
      · rw [same] at head
        obtain rfl := Option.some.inj head
        exact starts first rfl
      · obtain ⟨d, others, image⟩ := List.exists_cons_of_ne_nil filled
        rw [image] at head capitals
        obtain rfl := Option.some.inj head
        exact (capitals d List.mem_cons_self).2

end Text
end HttpAuth
