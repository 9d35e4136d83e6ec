import HttpAuth.Proofs.Ascii
import HttpAuth.Proofs.Cutting
import HttpAuth.Uri

/-!
# The written forms of an address

An address of version 6 is written as eight groups, or as fewer on both sides of a gap.  A version 4
address at the end counts as two groups.  Every such text is found to be an address of version 6 and
none of version 4.
-/

namespace HttpAuth
namespace Address

open Text

/-- The parts at the end of an address, which stand for a number of groups. -/
inductive Parts : List Text → Nat → Prop where
  /-- There are no parts. -/
  | nil : Parts [] 0
  /-- The last part is an address of version 4. -/
  | quad {part : Text} (valid : isVersion4 part = true) : Parts [part] 2
  /-- A part is a group. -/
  | group {part : Text} {others : List Text} {count : Nat} (valid : isGroup part = true)
      (later : Parts others count) : Parts (part :: others) (count + 1)

/-- The written forms of an address of version 6. -/
inductive Form : Text → Prop where
  /-- All groups are written. -/
  | full {parts : List Text} (valid : Parts parts 8) : Form (joined ':' parts)
  /-- There is a gap in the place of one or more groups. -/
  | gap {high low : List Text} {count : Nat} (groups : ∀ part ∈ high, isGroup part = true)
      (valid : Parts low count) (short : high.length + count ≤ 7) :
      Form (joined ':' high ++ ':' :: ':' :: joined ':' low)

/-! ## Characters -/

/-- The character may stand in an address. -/
def IsMark (c : Char) : Prop :=
  (Hex.value? c).isSome ∨ c = '.' ∨ c = ':'

theorem value?_of_isDigit {c : Char} (digit : c.isDigit = true) : (Hex.value? c).isSome := by
  have bounds := isDigit_iff.mp digit
  simp [Hex.value?, bounds]

theorem group_filled {part : Text} (valid : isGroup part = true) : part ≠ [] := by
  rintro rfl
  cases valid

theorem value?_of_mem_group {part : Text} (valid : isGroup part = true) {c : Char}
    (member : c ∈ part) : (Hex.value? c).isSome := by
  simp only [isGroup, Bool.and_eq_true, List.all_eq_true] at valid
  exact valid.2 c member

/-- An address of version 4 has a full stop, and digits besides. -/
theorem mem_version4 {text : Text} (valid : isVersion4 text = true) :
    '.' ∈ text ∧ ∀ c ∈ text, c = '.' ∨ c.isDigit = true := by
  simp only [isVersion4, Bool.and_eq_true, beq_iff_eq, List.all_eq_true] at valid
  obtain ⟨four, bytes⟩ := valid
  constructor
  · refine Decidable.byContradiction fun absent => ?_
    rw [pieces_of_not_mem absent] at four
    cases four
  · intro c member
    by_cases stop : c = '.'
    · exact .inl stop
    · obtain ⟨piece, listed, inside⟩ := mem_pieces member stop
      have byte := bytes piece listed
      simp only [isByte, Bool.and_eq_true, List.all_eq_true] at byte
      exact .inr (byte.1.1.1.2 c inside)

theorem not_isGroup_of_isVersion4 {text : Text} (valid : isVersion4 text = true) :
    isGroup text = false := by
  refine Bool.eq_false_iff.mpr fun group => ?_
  exact absurd (value?_of_mem_group group (mem_version4 valid).1) (by decide)

theorem colon_not_mem_group {part : Text} (valid : isGroup part = true) : ':' ∉ part :=
  fun member => absurd (value?_of_mem_group valid member) (by decide)

namespace Parts

variable {parts : List Text} {count : Nat}

theorem isMark (valid : Parts parts count) : ∀ part ∈ parts, ∀ c ∈ part, IsMark c := by
  induction valid with
  | nil => nofun
  | quad valid =>
      intro part listed c member
      obtain rfl := List.mem_singleton.mp listed
      rcases (mem_version4 valid).2 c member with stop | digit
      · exact .inr (.inl stop)
      · exact .inl (value?_of_isDigit digit)
  | group valid later induction =>
      intro part listed c member
      rcases List.mem_cons.mp listed with rfl | listed
      · exact .inl (value?_of_mem_group valid member)
      · exact induction part listed c member

theorem separate (valid : Parts parts count) : ∀ part ∈ parts, part ≠ [] ∧ ':' ∉ part := by
  induction valid with
  | nil => nofun
  | quad valid =>
      intro part listed
      obtain rfl := List.mem_singleton.mp listed
      obtain ⟨stop, others⟩ := mem_version4 valid
      refine ⟨List.ne_nil_of_mem stop, fun member => ?_⟩
      exact absurd (others ':' member) (by decide)
  | group valid later induction =>
      intro part listed
      rcases List.mem_cons.mp listed with rfl | listed
      · exact ⟨group_filled valid, colon_not_mem_group valid⟩
      · exact induction part listed

theorem groupCount?_eq (valid : Parts parts count) : groupCount? true parts = some count := by
  induction valid with
  | nil => rfl
  | quad valid => simp [groupCount?, not_isGroup_of_isVersion4 valid, valid]
  | @group part others count valid later induction =>
      cases others with
      | nil =>
          cases later
          simp [groupCount?, valid]
      | cons next others => simp [groupCount?, valid, induction]

end Parts

theorem groupCount?_of_groups {parts : List Text} (groups : ∀ part ∈ parts, isGroup part = true) :
    groupCount? false parts = some parts.length := by
  induction parts with
  | nil => rfl
  | cons part others induction =>
      have valid := groups part List.mem_cons_self
      have later := induction fun other member => groups other (List.mem_cons_of_mem part member)
      cases others with
      | nil => simp [groupCount?, valid]
      | cons next others => simp [groupCount?, valid, later]

/-! ## The gap -/

theorem cutGap_append {part : Text} (unmarked : ':' ∉ part) (rest : Text) :
    cutGap (part ++ rest) = (part ++ (cutGap rest).1, (cutGap rest).2) := by
  induction part with
  | nil => rfl
  | cons c part induction =>
      have other : c ≠ ':' := Ne.symm (List.ne_of_not_mem_cons unmarked)
      have later := List.not_mem_of_not_mem_cons unmarked
      simp [cutGap, other, induction later]

theorem cutGap_colon {rest : Text} (single : rest.head? ≠ some ':') :
    cutGap (':' :: rest) = (':' :: (cutGap rest).1, (cutGap rest).2) := by
  cases rest with
  | nil => rfl
  | cons c rest =>
      have other : c ≠ ':' := fun same => single (congrArg some same)
      simp [cutGap, other]

variable {parts : List Text} (separate : ∀ part ∈ parts, part ≠ [] ∧ ':' ∉ part)
include separate

theorem cutGap_joined_append (tail : Text) :
    cutGap (joined ':' parts ++ tail) =
      (joined ':' parts ++ (cutGap tail).1, (cutGap tail).2) := by
  induction parts with
  | nil => rfl
  | cons part others induction =>
      obtain ⟨-, unmarked⟩ := separate part List.mem_cons_self
      have later := induction fun other member => separate other (List.mem_cons_of_mem part member)
      cases others with
      | nil => exact cutGap_append unmarked tail
      | cons next others =>
          obtain ⟨filled, next_unmarked⟩ := separate next (by simp)
          have single : (joined ':' (next :: others) ++ tail).head? ≠ some ':' := by
            obtain ⟨first, rest, rfl⟩ := List.exists_cons_of_ne_nil filled
            have other : first ≠ ':' := Ne.symm (List.ne_of_not_mem_cons next_unmarked)
            cases others <;> simpa [joined] using other
          rw [joined, List.append_assoc, List.cons_append, cutGap_append unmarked,
            cutGap_colon single, later]
          simp

theorem sideCount?_joined (tail4 : Bool) :
    sideCount? tail4 (joined ':' parts) = groupCount? tail4 parts := by
  cases parts with
  | nil => rfl
  | cons part others =>
      obtain ⟨filled, -⟩ := separate part List.mem_cons_self
      have joined_filled : joined ':' (part :: others) ≠ [] := by
        cases others with
        | nil => exact filled
        | cons next others => exact List.append_ne_nil_of_left_ne_nil filled _
      have unmarked : ∀ other ∈ part :: others, ':' ∉ other := fun other member =>
        (separate other member).2
      rw [sideCount?, List.isEmpty_eq_false_iff.mpr joined_filled,
        pieces_joined (List.cons_ne_nil part others) unmarked]
      rfl

omit separate

/-! ## Addresses -/

namespace Form

variable {text : Text}

theorem isMark (form : Form text) : ∀ c ∈ text, IsMark c := by
  intro c member
  cases form with
  | full valid =>
      rcases mem_joined member with colon | ⟨part, listed, inside⟩
      · exact .inr (.inr colon)
      · exact valid.isMark part listed c inside
  | gap groups valid short =>
      simp only [List.mem_append, List.mem_cons] at member
      rcases member with above | colon | colon | below
      · rcases mem_joined above with colon | ⟨part, listed, inside⟩
        · exact .inr (.inr colon)
        · exact .inl (value?_of_mem_group (groups part listed) inside)
      · exact .inr (.inr colon)
      · exact .inr (.inr colon)
      · rcases mem_joined below with colon | ⟨part, listed, inside⟩
        · exact .inr (.inr colon)
        · exact valid.isMark part listed c inside

theorem colon_mem (form : Form text) : ':' ∈ text := by
  cases form with
  | full valid =>
      rcases valid with _ | _ | ⟨first, later⟩
      rcases later with _ | _ | ⟨second, later⟩
      simp [joined]
  | gap => simp

theorem isGroups_eq (form : Form text) : isGroups text = true := by
  cases form with
  | full valid =>
      have cut := cutGap_joined_append valid.separate []
      rw [List.append_nil] at cut
      simp [isGroups, cut, cutGap, sideCount?_joined valid.separate, valid.groupCount?_eq]
  | @gap high low count groups valid short =>
      have separate := fun part listed =>
        And.intro (group_filled (groups part listed)) (colon_not_mem_group (groups part listed))
      have cut := cutGap_joined_append separate (':' :: ':' :: joined ':' low)
      simp [isGroups, cut, cutGap, sideCount?_joined separate, sideCount?_joined valid.separate,
        groupCount?_of_groups groups, valid.groupCount?_eq, short]

/-- A bracketed address passes the check of its host. -/
theorem checkHost_eq (form : Form text) : Uri.checkHost text = .ok () := by
  have not_future : text.head? ≠ some 'v' := by
    intro first
    exact absurd (form.isMark 'v' (List.mem_of_head? first)) (by unfold IsMark; decide)
  have not_version4 : isVersion4 text = false := by
    refine Bool.eq_false_iff.mpr fun valid => ?_
    exact absurd ((mem_version4 valid).2 ':' form.colon_mem) (by decide)
  have no_zone : '%' ∉ text := fun member =>
    absurd (form.isMark '%' member) (by unfold IsMark; decide)
  have version6 : isVersion6 text = true := by
    rw [isVersion6, cut_of_not_mem no_zone]
    exact form.isGroups_eq
  simp [Uri.checkHost, not_future, not_version4, version6]

end Form
end Address
end HttpAuth
