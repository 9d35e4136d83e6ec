import HttpAuth.Challenge.Bearer
import HttpAuth.Proofs.Grammar

/-!
# Challenges written and read again

A challenge can be written in many ways: its values bare or in quotes, with backslashes where none
is needed, with blanks around every part, and with empty elements in its list.  It is read from each
of them.  What is read from any text can be written, with every value in quotes, and read again.
-/

namespace HttpAuth
namespace Challenge

open Text

/-- The second text is the first one as it stands between quotes: a backslash protects every quote
and backslash, and may protect any other character but a line feed. -/
inductive QuotedBody : Text → Text → Prop where
  /-- Nothing is written as nothing. -/
  | nil : QuotedBody [] []
  /-- A character that needs no backslash stands for itself. -/
  | plain {c : Char} {value body : Text} (no_quote : c ≠ '"') (no_escape : c ≠ '\\')
      (rest : QuotedBody value body) : QuotedBody (c :: value) (c :: body)
  /-- A backslash protects a character. -/
  | escaped {c : Char} {value body : Text} (no_break : c ≠ '\n')
      (rest : QuotedBody value body) : QuotedBody (c :: value) ('\\' :: c :: body)

/-- The second text is a form of the first one as the value of a parameter. -/
inductive ValueForm : Text → Text → Prop where
  /-- The value stands between quotes. -/
  | quoted {value body : Text} (written : QuotedBody value body) :
      ValueForm value ('"' :: (body ++ ['"']))
  /-- A value without commas and quotes and without blanks at its ends may stand for itself. -/
  | bare {value : Text} (unmarked : ∀ c ∈ value, c ≠ ',' ∧ c ≠ '"') (tight : Tight value) :
      ValueForm value value

/-- The text is a form of the parameter. -/
inductive ParamForm : Text × Text → Text → Prop where
  /-- The name, an equals sign between blanks and the value. -/
  | assigned {name value before after form : Text} (token : isToken name = true)
      (before_blank : Blank before) (after_blank : Blank after) (written : ValueForm value form) :
      ParamForm (name, value) (name ++ (before ++ '=' :: (after ++ form)))

/-- The pieces between commas are forms of the parameters, in order, among empty elements. -/
inductive ListForm : List (Text × Text) → List Text → Prop where
  /-- No parameter and no piece. -/
  | nil : ListForm [] []
  /-- An empty element. -/
  | blank {params : List (Text × Text)} {piece : Text} {pieces : List Text} (blank : Blank piece)
      (rest : ListForm params pieces) : ListForm params (piece :: pieces)
  /-- A parameter between blanks. -/
  | param {param : Text × Text} {params : List (Text × Text)} {before after form : Text}
      {pieces : List Text} (before_blank : Blank before) (after_blank : Blank after)
      (written : ParamForm param form) (rest : ListForm params pieces) :
      ListForm (param :: params) ((before ++ (form ++ after)) :: pieces)

/-- The text is a rendering of the challenge. -/
inductive Rendering : Challenge → Text → Prop where
  /-- The scheme alone. -/
  | alone {before scheme : Text} (before_blank : Blank before) (word : Word scheme) :
      Rendering { scheme } (before ++ scheme)
  /-- The scheme, blanks and the parameters between commas. -/
  | listed {before scheme gap : Text} {params : List (Text × Text)} {pieces : List Text}
      (before_blank : Blank before) (word : Word scheme) (gap_blank : Blank gap)
      (separated : gap ≠ []) (written : ListForm params pieces) :
      Rendering { scheme, params } (before ++ (scheme ++ (gap ++ joined ',' pieces)))

/-! ## Forms are read -/

theorem QuotedBody.stringBody {value body : Text} (written : QuotedBody value body) :
    StringBody value body := by
  induction written with
  | nil => exact .nil
  | plain no_quote no_escape _ induction => exact .plain no_quote no_escape induction
  | escaped no_break _ induction => exact .pair no_break induction

namespace ValueForm

variable {value form : Text}

theorem tight (written : ValueForm value form) : Tight form := by
  cases written with
  | quoted =>
      refine ⟨?_, ?_⟩
      · rintro c ⟨⟩
        rfl
      · intro c last
        rw [← List.cons_append, List.getLast?_concat] at last
        cases last
        rfl
  | bare _ tight => exact tight

theorem read (written : ValueForm value form) : ValueReading value form := by
  cases written with
  | quoted written => exact .quoted written.stringBody
  | bare unmarked _ =>
      exact .bare (fun quote => (unmarked _ quote).2 rfl) (whole_of_unmarked unmarked)

end ValueForm

theorem ParamForm.read {param : Text × Text} {form : Text} (written : ParamForm param form) :
    ParamReading param form := by
  cases written with
  | assigned token before_blank after_blank written =>
      exact .assigned token before_blank after_blank written.tight written.read

theorem ListForm.read {params : List (Text × Text)} {pieces : List Text}
    (written : ListForm params pieces) : ListReading params pieces := by
  induction written with
  | nil => exact .nil
  | blank blank _ induction => exact .blank blank induction
  | param before_blank after_blank written _ induction =>
      exact .param before_blank after_blank written.read induction

/-! ## Challenges -/

theorem Rendering.parse_eq {challenge : Challenge} {text : Text}
    (written : Rendering challenge text) : parse (some text) = .ok challenge := by
  cases written with
  | @alone before scheme before_blank word =>
      have split : elements [] = .ok [] := rfl
      have ended : ∀ c, ([] : Text).head? = some c → isBlank c = true := nofun
      have parsed := parse_scheme_append before_blank word ended split
      rw [List.append_nil] at parsed
      exact parsed
  | @listed before scheme gap params pieces before_blank word gap_blank separated written =>
      have split : elements (gap ++ joined ',' pieces) = .ok (filled pieces) := by
        rw [elements_append_blank gap_blank, elements_joined written.read.whole]
      rw [parse_scheme_append before_blank word ?_ split, written.read.mapM_filled]
      · rfl
      intro c head
      obtain ⟨first, others, rfl⟩ := List.exists_cons_of_ne_nil separated
      cases head
      exact gap_blank c List.mem_cons_self

/-! ## Every value in quotes -/

/-- Put a backslash before every quote and every backslash. -/
def escape (value : Text) : Text :=
  value.flatMap fun c => if c = '"' ∨ c = '\\' then ['\\', c] else [c]

/-- A parameter with its value in quotes. -/
def quotedParam (param : Text × Text) : Text :=
  param.1 ++ '=' :: '"' :: (escape param.2 ++ ['"'])

/-- The rendering with every value in quotes. -/
def canonical (challenge : Challenge) : Text :=
  challenge.scheme ++ ' ' :: joined ',' (challenge.params.map quotedParam)

theorem quotedBody_escape (value : Text) : QuotedBody value (escape value) := by
  induction value with
  | nil => exact .nil
  | cons c value induction =>
      rw [escape, List.flatMap_cons, ← escape]
      by_cases marked : c = '"' ∨ c = '\\'
      · rw [if_pos marked]
        refine .escaped ?_ induction
        rintro rfl
        revert marked
        decide
      · rw [if_neg marked]
        have unmarked := not_or.mp marked
        exact .plain unmarked.1 unmarked.2 induction

theorem listForm_quoted {params : List (Text × Text)}
    (tokens : ∀ param ∈ params, isToken param.1 = true) :
    ListForm params (params.map quotedParam) := by
  induction params with
  | nil => exact .nil
  | cons param params induction =>
      have later := induction fun other member => tokens other (List.mem_cons_of_mem param member)
      have written : ParamForm param (quotedParam param) :=
        .assigned (tokens param List.mem_cons_self) blank_nil blank_nil
          (.quoted (quotedBody_escape param.2))
      have listed := ListForm.param blank_nil blank_nil written later
      rwa [List.append_nil, List.nil_append] at listed

theorem rendering_canonical {challenge : Challenge} (word : Word challenge.scheme)
    (tokens : ∀ param ∈ challenge.params, isToken param.1 = true) :
    Rendering challenge challenge.canonical :=
  .listed blank_nil word blank_space (List.cons_ne_nil _ _) (listForm_quoted tokens)

/-- A Bearer challenge is found in a header that holds its rendering. -/
theorem findBearer_canonical {challenge : Challenge} (word : Word challenge.scheme)
    (bearer : lower challenge.scheme = "bearer".toList)
    (tokens : ∀ param ∈ challenge.params, isToken param.1 = true) :
    (findBearer (.single headerName challenge.canonical)).2 = some challenge := by
  have scheme_eq : firstWord (trim challenge.canonical) = challenge.scheme := by
    have trimmed := trim_word_append blank_nil word
      (' ' :: joined ',' (challenge.params.map quotedParam))
    rw [List.nil_append, ← canonical] at trimmed
    rw [trimmed]
    refine firstWord_append word.2 ?_
    intro c head
    cases head?_trimRight head
    rfl
  have trim_eq : trim (trim challenge.canonical) = trim challenge.canonical :=
    trim_of_tight (tight_trim challenge.canonical)
  have parsed : parse (some (trim challenge.canonical)) = .ok challenge := by
    have read := (rendering_canonical word tokens).parse_eq
    rw [parse, Option.getD_some] at read ⊢
    rwa [trim_eq]
  have values_eq : bearerValues (.single headerName challenge.canonical) =
      [trim challenge.canonical] := by
    have same : Headers.sameName headerName headerName = true := by
      rw [Headers.sameName, beq_self_eq_true]
    simp [bearerValues, Headers.getAll, same, isBearer, scheme_eq, bearer]
  rw [findBearer, values_eq, firstReadable, parsed]

/-- Every rendering of a challenge is read as that challenge.  A challenge that is read from any
text has a word for a scheme and tokens for names, so that it is read from its rendering with every
value in quotes. -/
theorem parse_round_trip :
    (∀ challenge text, Rendering challenge text → parse (some text) = .ok challenge) ∧
      ∀ value challenge, parse value = .ok challenge →
        Word challenge.scheme ∧ (∀ param ∈ challenge.params, isToken param.1 = true) ∧
          Rendering challenge challenge.canonical ∧
          parse (some challenge.canonical) = .ok challenge := by
  refine ⟨fun challenge text written => written.parse_eq, fun value challenge parsed => ?_⟩
  obtain ⟨not_empty, scheme_eq, found, -, read⟩ := parse_eq_ok parsed
  have word : Word challenge.scheme := by
    rw [scheme_eq]
    exact word_firstWord_trim not_empty
  have tokens : ∀ param ∈ challenge.params, isToken param.1 = true := by
    intro param member
    obtain ⟨element, -, element_eq⟩ := exists_of_mapM read param member
    exact (parseParam_eq_ok element_eq).1
  have written := rendering_canonical word tokens
  exact ⟨word, tokens, written, written.parse_eq⟩

/-- A challenge with quotes, commas and backslashes in a value, written with a backslash too many,
an empty element and a bare value. -/
theorem parse_round_trip_of_escaped_value :
    let challenge : Challenge :=
      { scheme := "Bearer".toList
        params := [("realm".toList, "a\",b\\".toList), ("scope".toList, "x\\y=".toList)] }
    let text : Text := "Bearer ,realm = \"a\\\",\\b\\\\\" , scope=x\\y=".toList
    Rendering challenge text ∧ parse (some text) = .ok challenge := by
  intro challenge text
  have body : QuotedBody "a\",b\\".toList "a\\\",\\b\\\\".toList :=
    .plain (by decide) (by decide) <| .escaped (by decide) <| .plain (by decide) (by decide) <|
      .escaped (by decide) <| .escaped (by decide) .nil
  have realm : ParamForm ("realm".toList, "a\",b\\".toList) "realm = \"a\\\",\\b\\\\\"".toList :=
    .assigned (by decide) blank_space blank_space (.quoted body)
  have bare : ValueForm "x\\y=".toList "x\\y=".toList := by
    refine .bare (by simp) ⟨?_, ?_⟩ <;>
    · rintro c ⟨⟩
      rfl
  have scope : ParamForm ("scope".toList, "x\\y=".toList) "scope=x\\y=".toList :=
    .assigned (by decide) blank_nil blank_nil bare
  have list : ListForm challenge.params
      [[], "realm = \"a\\\",\\b\\\\\" ".toList, " scope=x\\y=".toList] :=
    .blank blank_nil (.param blank_nil blank_space realm (.param blank_space blank_nil scope .nil))
  have word : Word "Bearer".toList := word_of_isToken (by decide)
  have written : Rendering challenge text :=
    .listed blank_nil word blank_space (List.cons_ne_nil _ _) list
  exact ⟨written, parse_round_trip.1 challenge text written⟩

end Challenge
end HttpAuth
