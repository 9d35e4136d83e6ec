import HttpAuth.Proofs.Capitals
import HttpAuth.Proofs.Cutting
import HttpAuth.Proofs.Trimming
import HttpAuth.RequestLine

/-!
# Request lines written and read again

A line is read back when its fields can be told apart in its text, and every line that was read is
such a line.  It stays one under another target without a space.  A space in the target makes a
fourth field, and then the line is refused.
-/

namespace HttpAuth
namespace RequestLine

open Text

variable {line : RequestLine}

/-- The fields of a line can be told apart in its text, and its method is in capitals. -/
structure WellFormed (line : RequestLine) : Prop where
  /-- No field is empty. -/
  filled : line.method ≠ [] ∧ line.target ≠ [] ∧ line.version ≠ []
  /-- No field has a space. -/
  words : ' ' ∉ line.method ∧ ' ' ∉ line.target ∧ ' ' ∉ line.version
  /-- The text does not start with a blank. -/
  starts : ∀ c, line.method.head? = some c → isBlank c = false
  /-- The text does not end with a blank. -/
  ends : ∀ c, line.version.getLast? = some c → isBlank c = false
  /-- The method is in capitals. -/
  capitals : upper line.method = line.method
  /-- The version is one of the protocol. -/
  http : "HTTP/".toList.isPrefixOf (upper line.version) = true

theorem tight_text (filled : line.method ≠ [] ∧ line.version ≠ [])
    (starts : ∀ c, line.method.head? = some c → isBlank c = false)
    (ends : ∀ c, line.version.getLast? = some c → isBlank c = false) : Tight line.text := by
  constructor
  · intro c first
    obtain ⟨head, others, method_eq⟩ := List.exists_cons_of_ne_nil filled.1
    rw [text, method_eq] at first
    rw [method_eq] at starts
    exact starts c first
  · intro c last
    rw [text, getLast?_append_mark _ _ filled.2] at last
    exact ends c last

/-- A text whose inside is three fields is read as these fields, with the method in capitals. -/
theorem parse_of_fields {given method target version : Text}
    (filled : method ≠ [] ∧ target ≠ [] ∧ version ≠ [])
    (words : ' ' ∉ method ∧ ' ' ∉ target ∧ ' ' ∉ version)
    (http : "HTTP/".toList.isPrefixOf (upper version) = true)
    (whole : trim given = method ++ ' ' :: target ++ ' ' :: version) :
    parse (some given) = .ok ⟨upper method, target, version⟩ := by
  have fields : pieces ' ' (trim given) = [method, target, version] := by
    rw [whole, List.append_assoc, List.cons_append, pieces_append_mark words.1,
      pieces_append_mark words.2.1, pieces_of_not_mem words.2.2]
  have no_empty : (method.isEmpty || target.isEmpty || version.isEmpty) = false := by
    simp [filled]
  rw [parse, Option.getD_some, fields]
  simp only [no_empty, http, Bool.false_eq_true, if_false, if_true]

/-- A line is read back. -/
theorem WellFormed.parse_text (formed : WellFormed line) : parse (some line.text) = .ok line := by
  have tight := tight_text ⟨formed.filled.1, formed.filled.2.2⟩ formed.starts formed.ends
  have read := parse_of_fields formed.filled formed.words formed.http (trim_of_tight tight)
  rwa [formed.capitals] at read

/-- A line stays well formed with another target. -/
theorem WellFormed.withTarget (formed : WellFormed line) {target : Text} (filled : target ≠ [])
    (word : ' ' ∉ target) : WellFormed (line.withTarget target) where
  filled := ⟨formed.filled.1, filled, formed.filled.2.2⟩
  words := ⟨formed.words.1, word, formed.words.2.2⟩
  starts := formed.starts
  ends := formed.ends
  capitals := formed.capitals
  http := formed.http

/-- A line that is read is made of three fields of the text. -/
theorem parse_eq_ok {given : Option Text} (read : parse given = .ok line) :
    ∃ method, pieces ' ' (trim (given.getD [])) = [method, line.target, line.version] ∧
      line.method = upper method ∧ method ≠ [] ∧ line.target ≠ [] ∧ line.version ≠ [] ∧
      "HTTP/".toList.isPrefixOf (upper line.version) = true := by
  rw [parse] at read
  split at read
  · rename_i method target version fields
    split at read
    · cases read
    · rename_i no_empty
      split at read
      · rename_i http
        obtain rfl := Except.ok.inj read
        simp only [Bool.or_eq_true, List.isEmpty_iff, not_or] at no_empty
        obtain ⟨⟨method_filled, target_filled⟩, version_filled⟩ := no_empty
        exact ⟨method, fields, rfl, method_filled, target_filled, version_filled, http⟩
      · cases read
  · cases read

/-- What is read is three fields inside the text. -/
theorem fields_of_parse {given : Option Text} (read : parse given = .ok line) :
    ∃ text method, given = some text ∧
      trim text = method ++ ' ' :: line.target ++ ' ' :: line.version ∧
      line.method = upper method ∧ (method ≠ [] ∧ line.target ≠ [] ∧ line.version ≠ []) ∧
      (' ' ∉ method ∧ ' ' ∉ line.target ∧ ' ' ∉ line.version) ∧
      "HTTP/".toList.isPrefixOf (upper line.version) = true := by
  obtain ⟨method, fields, method_eq, method_filled, target_filled, version_filled, http⟩ :=
    parse_eq_ok read
  have words : ∀ field ∈ [method, line.target, line.version], ' ' ∉ field := by
    rw [← fields]
    exact fun field member => not_mem_of_mem_pieces member
  cases given with
  | none => cases read
  | some text =>
      refine ⟨text, method, rfl, ?_, method_eq, ⟨method_filled, target_filled, version_filled⟩,
        ⟨words _ (by simp), words _ (by simp), words _ (by simp)⟩, http⟩
      rw [Option.getD_some] at fields
      rw [← joined_pieces ' ' (trim text), fields]
      simp [joined]

/-- A line that is read is well formed. -/
theorem wellFormed_of_parse {given : Option Text} (read : parse given = .ok line) :
    WellFormed line := by
  obtain ⟨text, method, rfl, whole, method_eq, filled, words, http⟩ := fields_of_parse read
  obtain ⟨starts, ends⟩ := tight_trim text
  rw [whole] at starts ends
  obtain ⟨first, others, rfl⟩ := List.exists_cons_of_ne_nil filled.1
  have method_starts : ∀ c, (first :: others).head? = some c → isBlank c = false :=
    fun c head => starts c head
  constructor
  case filled => exact ⟨method_eq ▸ upper_cons_ne_nil first others, filled.2⟩
  case words =>
    refine ⟨fun space => ?_, words.2⟩
    rw [method_eq] at space
    exact words.1 (mem_of_mem_upper rfl space)
  case starts =>
    rw [method_eq]
    exact fun c head => not_blank_of_head?_upper method_starts head
  case ends =>
    intro c last
    refine ends c ?_
    rw [getLast?_append_mark _ _ filled.2.2, last]
  case capitals => rw [method_eq, upper_upper]
  case http => exact http

/-- A line with a space in its target is refused. -/
theorem parse_text_of_space (space : ' ' ∈ line.target) (tight : Tight line.text) :
    parse (some line.text) = .error (.malformed (some line.text)) := by
  have many : 3 < (pieces ' ' (trim line.text)).length := by
    have counted := List.count_pos_iff.mpr space
    rw [trim_of_tight tight, length_pieces]
    simp only [text, List.count_append, List.count_cons_self]
    omega
  rw [parse, Option.getD_some]
  generalize pieces ' ' (trim line.text) = fields at many
  split
  · simp at many
  · rfl

/-- A line that asks for a target. -/
def get (target : Text) : RequestLine :=
  { method := "GET".toList, target }

theorem wellFormed_get {target : Text} (filled : target ≠ []) (word : ' ' ∉ target) :
    WellFormed (get target) where
  filled := ⟨nofun, filled, nofun⟩
  words := ⟨by change ' ' ∉ "GET".toList; decide, word, by change ' ' ∉ "HTTP/1.1".toList; decide⟩
  starts := by
    rintro c ⟨⟩
    rfl
  ends := by
    rintro c ⟨⟩
    rfl
  capitals := rfl
  http := rfl

theorem tight_get (target : Text) : Text.Tight (get target).text := by
  refine tight_text ⟨nofun, nofun⟩ ?_ ?_
  · rintro c ⟨⟩
    rfl
  · rintro c ⟨⟩
    rfl

theorem parse_get {target : Text} (filled : target ≠ []) (word : ' ' ∉ target) :
    parse (some (get target).text) = .ok (get target) :=
  (wellFormed_get filled word).parse_text

end RequestLine
end HttpAuth
