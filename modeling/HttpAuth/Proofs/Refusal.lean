import HttpAuth.Proofs.Quotation
import HttpAuth.Proofs.Realm
import HttpAuth.Proofs.Selection

/-!
# The wording of refusals

A Bearer challenge that cannot be read or used is reported with a part of it: a piece of its text in
quotes, its scheme, or its realm in quotes.  Reports of one kind have the same wording only if they
are about the same part.
-/

namespace HttpAuth
namespace Challenge

open Text

/-! ## Errors of one kind -/

/-- Two texts are no challenges for the same reason. -/
inductive Error.Alike : Error → Error → Prop where
  /-- Both are blank. -/
  | empty : Alike .empty .empty
  /-- Both leave a quoted string open. -/
  | unterminated (text other : Text) : Alike (.unterminated text) (.unterminated other)
  /-- Both have an element without an equals sign. -/
  | noValue (element other : Text) : Alike (.noValue element) (.noValue other)
  /-- Both have an element with nothing before its equals sign. -/
  | noName (element other : Text) : Alike (.noName element) (.noName other)
  /-- Both have a parameter whose name is no token. -/
  | badName (name other : Text) : Alike (.badName name) (.badName other)
  /-- Both have a malformed quoted value. -/
  | badQuoted (element other : Text) : Alike (.badQuoted element) (.badQuoted other)

/-- Two challenges name no token service for the same reason, and both realms can be split. -/
inductive TargetError.Alike : TargetError → TargetError → Prop where
  /-- Both have no realm. -/
  | noRealm (scheme other : Text) : Alike (.noRealm scheme) (.noRealm other)
  /-- Both realms are not absolute URIs of the web. -/
  | notAbsolute (realm other : Text) : Alike (.notAbsolute realm) (.notAbsolute other)
  /-- Both realms have no valid port. -/
  | port (realm other : Text) : Alike (.port realm) (.port other)

theorem Error.alike_refl (error : Error) : error.Alike error := by
  cases error <;> constructor

theorem quotation_inj (front : String) {text other : Text} :
    front ++ String.ofList (quoted text) = front ++ String.ofList (quoted other) ↔
      text = other := by
  rw [String.append_right_inj, String.ofList_inj, quoted_inj]

theorem Error.Alike.message_eq_iff {error other : Error} (alike : error.Alike other) :
    error.message = other.message ↔ error = other := by
  cases alike with
  | empty => exact ⟨fun _ => rfl, fun _ => rfl⟩
  | unterminated => exact (quotation_inj _).trans (by rw [Error.unterminated.injEq])
  | noValue => exact (quotation_inj _).trans (by rw [Error.noValue.injEq])
  | noName => exact (quotation_inj _).trans (by rw [Error.noName.injEq])
  | badName => exact (quotation_inj _).trans (by rw [Error.badName.injEq])
  | badQuoted => exact (quotation_inj _).trans (by rw [Error.badQuoted.injEq])

theorem TargetError.Alike.message_eq_iff {error other : TargetError} (alike : error.Alike other) :
    error.message = other.message ↔ error = other := by
  cases alike with
  | noRealm =>
      refine (String.append_left_inj " challenge has no realm").trans ?_
      rw [String.ofList_inj, TargetError.noRealm.injEq]
  | notAbsolute => exact (quotation_inj _).trans (by rw [TargetError.notAbsolute.injEq])
  | port => exact (quotation_inj _).trans (by rw [TargetError.port.injEq])

theorem TargetError.Alike.splittable {error other : TargetError} (alike : error.Alike other) :
    (∀ cause, error ≠ .unsplittable cause) ∧ ∀ cause, other ≠ .unsplittable cause := by
  cases alike <;> exact ⟨nofun, nofun⟩

/-! ## What an error quotes -/

/-- An error quotes a part of a text that is not empty. -/
def Error.Quotes (error : Error) (text : Text) : Prop :=
  ∃ front part, part ≠ [] ∧ part <:+: text ∧
    error.message = front ++ String.ofList (quoted part)

theorem Error.Quotes.mono {error : Error} {text whole : Text} (quotes : error.Quotes text)
    (standing : text <:+: whole) : error.Quotes whole := by
  obtain ⟨front, part, filled, inside, message_eq⟩ := quotes
  exact ⟨front, part, filled, inside.trans standing, message_eq⟩

theorem paramValue_eq_error {element raw : Text} {error : Error}
    (refused : paramValue element raw = .error error) : error = .badQuoted element := by
  rw [paramValue] at refused
  split at refused
  · split at refused
    · cases refused
      rfl
    · cases refused
  · cases refused

/-- An element that is no parameter is quoted, or its name is. -/
theorem quotes_of_parseParam {element : Text} {error : Error} (filled : element ≠ [])
    (refused : parseParam element = .error error) : error.Quotes element := by
  have whole : element <:+: element := List.infix_rfl
  rw [parseParam] at refused
  split at refused
  · cases refused
    exact ⟨_, element, filled, whole, rfl⟩
  · rename_i before after parts
    simp only at refused
    split at refused
    · cases refused
      exact ⟨_, element, filled, whole, rfl⟩
    · rename_i named
      split at refused
      · cases refused
        have standing : before <:+: element := by
          rw [eq_of_cut parts]
          exact (List.prefix_append before _).isInfix
        exact ⟨_, trim before, by simpa using named, (isInfix_trim before).trans standing, rfl⟩
      · cases value : paramValue element (trim after) with
        | ok found =>
            rw [value] at refused
            cases refused
        | error cause =>
            rw [value] at refused
            cases refused
            cases paramValue_eq_error value
            exact ⟨_, element, filled, whole, rfl⟩

theorem exists_of_mapM_error {found : List Text} {error : Error}
    (refused : found.mapM parseParam = .error error) :
    ∃ element ∈ found, parseParam element = .error error := by
  induction found with
  | nil => cases refused
  | cons element others induction =>
      rw [List.mapM_cons] at refused
      cases first : parseParam element with
      | error cause =>
          rw [first] at refused
          cases refused
          exact ⟨element, List.mem_cons_self, first⟩
      | ok param =>
          cases rest : others.mapM parseParam with
          | error cause =>
              rw [first, rest] at refused
              cases refused
              obtain ⟨later, member, failed⟩ := induction rest
              exact ⟨later, List.mem_cons_of_mem element member, failed⟩
          | ok params =>
              rw [first, rest] at refused
              cases refused

theorem quotes_of_elements {text : Text} {error : Error} (refused : elements text = .error error) :
    error.Quotes text := by
  rw [elements] at refused
  split at refused
  · rename_i open_end
    cases refused
    refine ⟨_, text, ?_, List.infix_rfl, rfl⟩
    rintro rfl
    cases open_end
  · cases refused

/-- The error of a value that is not blank quotes a part of it. -/
theorem quotes_of_parse {value : Text} {error : Error} (some_text : ¬Blank value)
    (refused : parse (some value) = .error error) : error.Quotes value := by
  have behind : afterFirstWord (trim value) <:+: value :=
    (isSuffix_afterFirstWord _).isInfix.trans (isInfix_trim value)
  have filled : trim value ≠ [] := fun vanished => some_text (blank_of_trim vanished)
  cases split : elements (afterFirstWord (trim value)) with
  | error cause =>
      have parse_eq : parse (some value) = .error cause := by
        simp only [parse, Option.getD_some, List.isEmpty_iff, if_neg filled, split]
        rfl
      rw [parse_eq] at refused
      cases refused
      exact (quotes_of_elements split).mono behind
  | ok found =>
      have given : trim ((some value).getD []) ≠ [] := filled
      have parse_eq := parse_eq_map given split
      rw [refused] at parse_eq
      cases read : found.mapM parseParam with
      | ok params =>
          rw [read] at parse_eq
          cases parse_eq
      | error cause =>
          rw [read] at parse_eq
          cases parse_eq
          obtain ⟨element, member, failed⟩ := exists_of_mapM_error read
          obtain ⟨element_filled, standing⟩ := mem_elements split member
          exact (quotes_of_parseParam element_filled failed).mono (standing.trans behind)

/-- A challenge that names no token service is reported with its scheme or its realm. -/
theorem message_of_target {challenge : Challenge} {error : TargetError}
    (refused : challenge.target = .error error) (splittable : ∀ cause, error ≠ .unsplittable cause) :
    error.message = String.ofList challenge.scheme ++ " challenge has no realm" ∨
      ∃ front realm, realm ≠ [] ∧ challenge.realm? = some realm ∧
        error.message = front ++ String.ofList (quoted realm) := by
  cases given : challenge.realm? with
  | none =>
      simp only [target, given, Option.getD_none] at refused
      cases refused
      exact .inl rfl
  | some realm =>
      by_cases filled : realm = []
      · simp only [target, given, filled, Option.getD_some] at refused
        cases refused
        exact .inl rfl
      · right
        cases split : Uri.split realm with
        | error cause =>
            have unsplittable := (challenge.target_eq_unsplittable_iff cause).mpr ⟨_, given, split⟩
            rw [unsplittable] at refused
            cases refused
            exact absurd rfl (splittable cause)
        | ok uri =>
            rw [target_eq_targetOfUri filled given split] at refused
            rcases challenge.targetOfUri_cases realm uri with
              ⟨-, other⟩ | ⟨-, -, ⟨-, other⟩ | ⟨-, reached, other⟩⟩
            all_goals
              rw [other] at refused
              cases refused
            · exact ⟨_, realm, filled, rfl, rfl⟩
            · exact ⟨_, realm, filled, rfl, rfl⟩

end Challenge
end HttpAuth
