import HttpAuth.Challenge.Bearer
import HttpAuth.Proofs.Folding
import HttpAuth.Proofs.Grammar

/-!
# The selection of a Bearer challenge

A response offers the challenges in those of its fields that carry challenges, name the Bearer
scheme and can be read.  The first offer is found.  All other fields are idle: they can be put in
anywhere.  The case of letters in names and blanks around values do not count either.
-/

namespace HttpAuth
namespace Challenge

open Text

/-- The name is that of the header for challenges, in some case of its letters. -/
def IsChallengeName (name : Text) : Prop :=
  name.map Char.toLower = "www-authenticate".toList

/-- The first word of the value is the name of the Bearer scheme, in some case of its letters. -/
def IsBearerValue (value : Text) : Prop :=
  (firstWord (trim value)).map Char.toLower = "bearer".toList

/-- A field offers a Bearer challenge. -/
structure Offers (field : Text × Text) (challenge : Challenge) : Prop where
  /-- The field carries challenges. -/
  name : IsChallengeName field.1
  /-- Its value names the Bearer scheme. -/
  scheme : IsBearerValue field.2
  /-- Its value is read as the challenge. -/
  read : parse (some field.2) = .ok challenge

/-- A field that offers nothing. -/
inductive Idle (field : Text × Text) : Prop where
  /-- It has another name. -/
  | otherName (other : ¬IsChallengeName field.1)
  /-- Its value names another scheme. -/
  | otherScheme (other : ¬IsBearerValue field.2)
  /-- Its value is blank. -/
  | blank (blank : Blank field.2)
  /-- Its value cannot be read. -/
  | malformed {error : Error} (refused : parse (some field.2) = .error error)

/-- The second sequence of fields is the first one with idle fields put in, names in another case of
their letters and blanks around values. -/
inductive Reworded : List (Text × Text) → List (Text × Text) → Prop where
  /-- No field is left. -/
  | nil : Reworded [] []
  /-- A field with its name in another case and blanks around its value. -/
  | field {name other value before after : Text} {fields others : List (Text × Text)}
      (same : other.map Char.toLower = name.map Char.toLower) (before_blank : Blank before)
      (after_blank : Blank after) (rest : Reworded fields others) :
      Reworded ((name, value) :: fields) ((other, before ++ (value ++ after)) :: others)
  /-- An idle field. -/
  | inserted {field : Text × Text} {fields others : List (Text × Text)} (idle : Idle field)
      (rest : Reworded fields others) : Reworded fields (field :: others)

/-! ## Offers -/

theorem sameName_headerName_iff {name : Text} :
    Headers.sameName name headerName = true ↔ IsChallengeName name := by
  have lowered : lower headerName = "www-authenticate".toList := rfl
  rw [Headers.sameName, beq_iff_eq, lowered]
  exact lower_eq_iff (by decide) (by decide)

theorem isBearer_trim_iff {value : Text} : isBearer (trim value) = true ↔ IsBearerValue value := by
  rw [isBearer, beq_iff_eq]
  exact lower_eq_iff (by decide) (by decide)

theorem not_isBearerValue_of_blank {value : Text} (blank : Blank value) :
    ¬IsBearerValue value := by
  rw [IsBearerValue, trim_of_blank blank]
  decide

/-- Only the trimmed value is read. -/
theorem parse_congr {value other : Text} (same : trim value = trim other) :
    parse (some value) = parse (some other) := by
  rw [parse, parse, Option.getD_some, Option.getD_some, same]

theorem parse_trim (value : Text) : parse (some (trim value)) = parse (some value) :=
  parse_congr (trim_of_tight (tight_trim value))

/-- The challenge that a field offers. -/
def offered? (field : Text × Text) : Option Challenge :=
  if Headers.sameName field.1 headerName && isBearer (trim field.2) then
    (parse (some field.2)).toOption
  else
    none

theorem offered?_eq_some_iff {field : Text × Text} {challenge : Challenge} :
    offered? field = some challenge ↔ Offers field challenge := by
  rw [offered?]
  split
  · rename_i asked
    rw [Bool.and_eq_true, sameName_headerName_iff, isBearer_trim_iff] at asked
    cases read : parse (some field.2) with
    | error error =>
        refine ⟨nofun, fun offers => ?_⟩
        rw [offers.read] at read
        cases read
    | ok found =>
        constructor
        · rintro ⟨⟩
          exact ⟨asked.1, asked.2, read⟩
        · intro offers
          rw [offers.read] at read
          cases read
          rfl
  · rename_i unasked
    rw [Bool.and_eq_true, sameName_headerName_iff, isBearer_trim_iff] at unasked
    exact ⟨nofun, fun offers => absurd ⟨offers.name, offers.scheme⟩ unasked⟩

/-- The idle fields are those that offer nothing. -/
theorem offered?_eq_none_iff {field : Text × Text} : offered? field = none ↔ Idle field := by
  rw [offered?]
  split
  · rename_i asked
    rw [Bool.and_eq_true, sameName_headerName_iff, isBearer_trim_iff] at asked
    obtain ⟨name, scheme⟩ := asked
    cases read : parse (some field.2) with
    | error error => exact ⟨fun _ => .malformed read, fun _ => rfl⟩
    | ok found =>
        refine ⟨nofun, fun idle => ?_⟩
        cases idle with
        | otherName other => exact absurd name other
        | otherScheme other => exact absurd scheme other
        | blank blank => exact absurd scheme (not_isBearerValue_of_blank blank)
        | malformed refused =>
            rw [refused] at read
            cases read
  · rename_i unasked
    rw [Bool.and_eq_true, sameName_headerName_iff, isBearer_trim_iff] at unasked
    refine ⟨fun _ => ?_, fun _ => rfl⟩
    by_cases name : IsChallengeName field.1
    · exact .otherScheme fun scheme => unasked ⟨name, scheme⟩
    · exact .otherName name

/-- A challenge that is offered has the Bearer scheme. -/
theorem Offers.scheme_eq {field : Text × Text} {challenge : Challenge}
    (offers : Offers field challenge) : challenge.scheme.map Char.toLower = "bearer".toList := by
  obtain ⟨-, scheme_eq, -⟩ := parse_eq_ok offers.read
  rw [scheme_eq]
  exact offers.scheme

theorem offered?_padded {name other value before after : Text}
    (same : other.map Char.toLower = name.map Char.toLower) (before_blank : Blank before)
    (after_blank : Blank after) :
    offered? (other, before ++ (value ++ after)) = offered? (name, value) := by
  have trimmed : trim (before ++ (value ++ after)) = trim value := by
    rw [trim_append_left before_blank, trim_append_right after_blank]
  have named : Headers.sameName other headerName = Headers.sameName name headerName := by
    rw [Bool.eq_iff_iff, sameName_headerName_iff, sameName_headerName_iff, IsChallengeName, same,
      IsChallengeName]
  rw [offered?, offered?, named, trimmed, parse_congr trimmed]

/-! ## The first offer -/

theorem firstReadable_eq (values : List Text) :
    (firstReadable values).2 = values.findSome? fun value => (parse (some value)).toOption := by
  induction values with
  | nil => rfl
  | cons value others induction =>
      rw [firstReadable, List.findSome?_cons]
      cases parse (some value) with
      | ok challenge => rfl
      | error error => exact induction

theorem bearerValues_cons (field : Text × Text) (others : List (Text × Text)) :
    bearerValues ⟨field :: others⟩ =
      if Headers.sameName field.1 headerName && isBearer (trim field.2) then
        trim field.2 :: bearerValues ⟨others⟩
      else
        bearerValues ⟨others⟩ := by
  cases named : Headers.sameName field.1 headerName with
  | false => simp [bearerValues, Headers.getAll, named]
  | true =>
      cases bearer : isBearer (trim field.2) <;> simp [bearerValues, Headers.getAll, named, bearer]

theorem findBearer_eq (headers : Headers) :
    (findBearer headers).2 = headers.items.findSome? offered? := by
  obtain ⟨items⟩ := headers
  rw [findBearer, firstReadable_eq]
  induction items with
  | nil => rfl
  | cons field others induction =>
      rw [bearerValues_cons, List.findSome?_cons, ← induction, offered?]
      split
      · rw [List.findSome?_cons, parse_trim]
      · rfl

theorem findSome?_of_reworded {fields others : List (Text × Text)}
    (reworded : Reworded fields others) :
    others.findSome? offered? = fields.findSome? offered? := by
  induction reworded with
  | nil => rfl
  | field same before_blank after_blank _ induction =>
      rw [List.findSome?_cons, List.findSome?_cons, offered?_padded same before_blank after_blank,
        induction]
  | inserted idle _ induction =>
      rw [List.findSome?_cons, offered?_eq_none_iff.mpr idle]
      exact induction

/-- The Bearer challenge of a response is the first one that a field offers, and there is none if
all fields are idle.  It has the Bearer scheme.  Idle fields that are put in anywhere do not change
it, nor does another case of letters in names or blanks around values. -/
theorem findBearer_selects_first (headers : Headers) :
    (∀ challenge, (findBearer headers).2 = some challenge ↔
      ∃ before field after, headers.items = before ++ field :: after ∧ Offers field challenge ∧
        ∀ earlier ∈ before, Idle earlier) ∧
    ((findBearer headers).2 = none ↔ ∀ field ∈ headers.items, Idle field) ∧
    (∀ field, Idle field ↔ ∀ challenge, ¬Offers field challenge) ∧
    (∀ field challenge, Offers field challenge →
      challenge.scheme.map Char.toLower = "bearer".toList) ∧
    ∀ others, Reworded headers.items others →
      (findBearer ⟨others⟩).2 = (findBearer headers).2 := by
  refine ⟨fun challenge => ?found, ?none, fun field => ?idle, fun _ _ => Offers.scheme_eq,
    fun others reworded => ?reworded⟩
  case found =>
    rw [findBearer_eq, List.findSome?_eq_some_iff]
    simp only [offered?_eq_some_iff, offered?_eq_none_iff]
  case none =>
    rw [findBearer_eq, List.findSome?_eq_none_iff]
    simp only [offered?_eq_none_iff]
  case idle =>
    simp only [← offered?_eq_none_iff, ← offered?_eq_some_iff, Option.eq_none_iff_forall_ne_some,
      ne_eq]
  case reworded =>
    rw [findBearer_eq, findBearer_eq]
    exact findSome?_of_reworded reworded

/-- A challenge behind a foreign field, a foreign scheme, a blank value and a value that cannot be
read. -/
theorem findBearer_selects_among_idle :
    let field : Text × Text := ("WWW-Authenticate".toList, "Bearer realm=\"r\"".toList)
    let challenge : Challenge := ⟨"Bearer".toList, [("realm".toList, "r".toList)]⟩
    let others : List (Text × Text) :=
      [("Server".toList, "Bearer realm=s".toList), ("www-authenticate".toList, "Basic".toList),
        ("WWW-Authenticate".toList, "\t ".toList), ("WWW-Authenticate".toList, "Bearer r".toList),
        ("wWW-aUTHENTICATE".toList, ['\t'] ++ ("Bearer realm=\"r\"".toList ++ [' ']))]
    Offers field challenge ∧ Reworded [field] others ∧ (findBearer ⟨others⟩).2 = some challenge ∧
      challenge.scheme.map Char.toLower = "bearer".toList := by
  intro field challenge others
  have offers : Offers field challenge := ⟨rfl, rfl, rfl⟩
  have foreign : Idle ("Server".toList, "Bearer realm=s".toList) := by
    refine .otherName ?_
    unfold IsChallengeName
    decide
  have basic : Idle ("www-authenticate".toList, "Basic".toList) := by
    refine .otherScheme ?_
    unfold IsBearerValue
    decide
  have tab : Blank ['\t'] := by
    simp [Blank]
    decide
  have blank : Idle ("WWW-Authenticate".toList, "\t ".toList) := .blank (tab.append blank_space)
  have refused : parse (some "Bearer r".toList) = .error (.noValue ['r']) := rfl
  have malformed : Idle ("WWW-Authenticate".toList, "Bearer r".toList) := .malformed refused
  have reworded : Reworded [field] others :=
    .inserted foreign <| .inserted basic <| .inserted blank <| .inserted malformed <|
      .field (by decide) tab blank_space .nil
  obtain ⟨found, -, -, scheme, kept⟩ := findBearer_selects_first ⟨[field]⟩
  refine ⟨offers, reworded, ?_, scheme field challenge offers⟩
  rw [kept others reworded]
  exact (found challenge).mpr ⟨[], field, [], rfl, offers, nofun⟩

end Challenge
end HttpAuth
