import HttpAuth.Proofs.Query
import HttpAuth.Proofs.Realm

/-!
# The target of a challenge

A usable challenge has one target, whose parts are those of the URI in its realm.  The query of the
realm comes first and is kept as it is written; the parameters behind it are encoded, so that their
characters are a few marks and those that are never escaped.
-/

namespace HttpAuth

namespace Uri

/-- The parts of a text, whether or not it can be split. -/
def parts (text : Text) : Uri :=
  let (scheme, afterScheme) := cutScheme (cleaned text)
  let (authority, tail) := cutAuthority afterScheme
  let (path, query) := Text.cut '?' (Text.cut '#' tail).1
  { scheme, authority, path, query := query.getD [] }

theorem split_eq_ok_iff {text : Text} {uri : Uri} :
    split text = .ok uri ↔ checkBrackets (parts text).authority = .ok () ∧
      checkConfusables (parts text).authority = .ok () ∧ uri = parts text := by
  have split_eq : split text = (do
      checkBrackets (parts text).authority
      checkConfusables (parts text).authority
      return parts text) := rfl
  rw [split_eq]
  cases checkBrackets (parts text).authority with
  | error error => exact ⟨nofun, nofun⟩
  | ok =>
      cases checkConfusables (parts text).authority with
      | error error => exact ⟨nofun, nofun⟩
      | ok =>
          constructor
          · rintro ⟨⟩
            exact ⟨rfl, rfl, rfl⟩
          · rintro ⟨-, -, rfl⟩
            rfl

/-- A question mark ends the path. -/
theorem question_not_mem_path {text : Text} {uri : Uri} (split : Uri.split text = .ok uri) :
    '?' ∉ uri.path := by
  obtain ⟨-, -, rfl⟩ := split_eq_ok_iff.mp split
  exact Text.not_mem_cut '?' _

/-- The number that a port names, if it names one. -/
def Port.number? : Port → Option Nat
  | .number value => some value
  | _ => none

end Uri

namespace Challenge

/-! ## Queries -/

/-- The merged query has no space but those of the query of the realm. -/
theorem space_mem_mergedQuery_iff (challenge : Challenge) (own : Text) :
    ' ' ∈ mergedQuery own challenge.query ↔ ' ' ∈ own := by
  have forwarded := challenge.space_not_mem_query
  cases own with
  | nil => cases query : challenge.query <;> simp_all [mergedQuery, Text.joined]
  | cons c rest => cases query : challenge.query <;> simp_all [mergedQuery, Text.joined]

/-! ## Targets -/

/-- The target that a usable URI names. -/
def reached (challenge : Challenge) (uri : Uri) : RealmTarget where
  secure := uri.scheme == "https".toList
  host := uri.host
  port := uri.port.number?
  path := if uri.path.isEmpty then ['/'] else uri.path
  query := mergedQuery uri.query challenge.query

variable {challenge : Challenge} {target : RealmTarget}

theorem targetOfUri_eq_ok_iff {realm : Text} {uri : Uri} :
    challenge.targetOfUri realm uri = .ok target ↔
      (uri.scheme = "http".toList ∨ uri.scheme = "https".toList) ∧ uri.host ≠ [] ∧
        uri.port ≠ .invalid ∧ target = challenge.reached uri := by
  have refused_iff : ((!(uri.scheme == "https".toList) && uri.scheme != "http".toList) ||
      uri.host.isEmpty) = true ↔
        ¬((uri.scheme = "http".toList ∨ uri.scheme = "https".toList) ∧ uri.host ≠ []) := by
    grind
  have reached_of_port : ∀ number, uri.port.number? = number → challenge.reached uri =
      { secure := uri.scheme == "https".toList
        host := uri.host
        port := number
        path := if uri.path.isEmpty then ['/'] else uri.path
        query := mergedQuery uri.query challenge.query } := by
    rintro _ rfl
    rfl
  rw [targetOfUri]
  split
  · rename_i refused
    constructor
    · intro reached
      cases reached
    · rintro ⟨web, named, -⟩
      exact absurd ⟨web, named⟩ (refused_iff.mp refused)
  · rename_i accepted
    obtain ⟨web, named⟩ := Decidable.not_not.mp (mt refused_iff.mpr accepted)
    cases port : uri.port with
    | invalid => simp
    | absent | number value =>
        rw [reached_of_port _ (by rw [port])]
        constructor
        · rintro ⟨⟩
          exact ⟨web, named, by simp, rfl⟩
        · rintro ⟨-, -, -, rfl⟩
          rfl

/-- The target of a challenge is the one that the URI in its realm names. -/
theorem target_eq_ok_iff :
    challenge.target = .ok target ↔ ∃ realm uri, challenge.realm? = some realm ∧
      Uri.split realm = .ok uri ∧
      (uri.scheme = "http".toList ∨ uri.scheme = "https".toList) ∧ uri.host ≠ [] ∧
      uri.port ≠ .invalid ∧ target = challenge.reached uri := by
  cases given : challenge.realm? with
  | none => simp [Challenge.target, given]
  | some realm =>
      cases realm with
      | nil =>
          -- Nothing has no scheme.
          have nothing : Uri.split [] = .ok ⟨[], [], [], []⟩ := rfl
          simp [Challenge.target, given, nothing]
      | cons first others =>
          cases split : Uri.split (first :: others) with
          | error error => simp [Challenge.target, given, split]
          | ok uri =>
              rw [target_eq_targetOfUri (List.cons_ne_nil first others) given split,
                targetOfUri_eq_ok_iff]
              simp [split]

end Challenge
end HttpAuth
