import HttpAuth.Proofs.Rendering
import HttpAuth.Proofs.Selection

/-!
# Two challenges in one value

A value in which a comma and a second challenge follow a challenge with parameters is not read at
all.  The comma ends an element of the first challenge, since every accepted text leaves the reader
outside quoted strings.  The next element starts with the second scheme, which is no parameter: it
either has no value, or stands in a name that has a blank in it.
-/

namespace HttpAuth
namespace Challenge

open Text

/-- Why the elements of a second challenge are no parameters of the first one. -/
inductive Intruder (second : Challenge) : Error → Prop where
  /-- Its scheme alone makes up an element. -/
  | scheme : Intruder second (.noValue second.scheme)
  /-- Its scheme and the name of its first parameter, with blanks between them, make up a name. -/
  | name {name value between : Text} {later : List (Text × Text)}
      (params_eq : second.params = (name, value) :: later) (between_blank : Blank between)
      (separated : between ≠ []) :
      Intruder second (.badName (second.scheme ++ (between ++ name)))

/-! ## The parts of a challenge -/

/-- A text that is read has its scheme between blanks, and behind them its elements. -/
theorem exists_scheme_append {text : Text} {challenge : Challenge}
    (parsed : parse (some text) = .ok challenge) :
    ∃ before rest found, text = before ++ (challenge.scheme ++ rest) ∧ Blank before ∧
      Word challenge.scheme ∧ (∀ c, rest.head? = some c → isBlank c = true) ∧
      elements rest = .ok found ∧ found.mapM parseParam = .ok challenge.params := by
  obtain ⟨some_text, scheme_eq, found, split, read⟩ := parse_eq_ok parsed
  rw [Option.getD_some] at some_text scheme_eq split
  obtain ⟨before, after, before_blank, after_blank, text_eq⟩ := exists_trim_append text
  have trim_eq : trim text = challenge.scheme ++ (trim text).dropWhile (!isBlank ·) := by
    rw [scheme_eq, firstWord, List.takeWhile_append_dropWhile]
  refine ⟨before, (trim text).dropWhile (!isBlank ·) ++ after, found, ?_, before_blank, ?_, ?_, ?_,
    read⟩
  · rw [← List.append_assoc challenge.scheme, ← trim_eq]
    exact text_eq
  · rw [scheme_eq]
    exact word_firstWord_trim some_text
  · intro c head
    have start := List.head?_dropWhile_not (!isBlank ·) (trim text)
    cases tail : (trim text).dropWhile (!isBlank ·) with
    | nil =>
        rw [tail, List.nil_append] at head
        exact after_blank c (List.mem_of_head? head)
    | cons d others =>
        rw [tail] at head start
        cases head
        simpa using start
  · rw [elements_concat_blank after_blank, ← elements_trimLeft]
    exact split

/-! ## The element of the second scheme -/

theorem not_isToken_of_blank {name : Text} {c : Char} (member : c ∈ name)
    (blank : isBlank c = true) : isToken name = false := by
  cases token : isToken name with
  | false => rfl
  | true =>
      have visible := (word_of_isToken token).2 c member
      rw [visible] at blank
      cases blank

theorem parseParam_scheme {scheme : Text} (token : isToken scheme = true) :
    parseParam scheme = .error (.noValue scheme) := by
  have no_equals : '=' ∉ scheme := fun member => (isToken_spec token '=' member).2.2 rfl
  rw [parseParam, cut_of_not_mem no_equals]

theorem ParamReading.exists_cons {param : Text × Text} {form : Text}
    (read : ParamReading param form) :
    ∃ c rest, form = c :: rest ∧ isBlank c = false := by
  cases read with
  | assigned token _ _ _ _ =>
      obtain ⟨c, others, rfl, visible⟩ := (word_of_isToken token).exists_cons
      exact ⟨c, _, rfl, visible⟩

/-- A parameter is refused with a scheme and blanks before it. -/
theorem parseParam_scheme_append {scheme between form : Text} {param : Text × Text}
    (token : isToken scheme = true) (between_blank : Blank between) (separated : between ≠ [])
    (read : ParamReading param form) :
    parseParam (trim (scheme ++ (between ++ form))) =
      .error (.badName (scheme ++ (between ++ param.1))) := by
  have word := word_of_isToken token
  cases read with
  | @assigned name value before after form name_token before_blank after_blank _ _ =>
      have trim_eq : trim (scheme ++ (between ++ (name ++ (before ++ '=' :: (after ++ form))))) =
          (scheme ++ (between ++ name) ++ before) ++ '=' :: trimRight (after ++ form) := by
        have trimmed := trim_word_append blank_nil word
          ((between ++ name ++ before) ++ '=' :: (after ++ form))
        rw [trimRight_append_cons _ (by decide)] at trimmed
        simpa using trimmed
      have no_equals : '=' ∉ scheme ++ (between ++ name) ++ before := by
        intro member
        simp only [List.mem_append] at member
        rcases member with (inside | blank | inside) | blank
        · exact (isToken_spec token _ inside).2.2 rfl
        · exact (not_mark_of_isBlank (between_blank _ blank)).2.2.2 rfl
        · exact (isToken_spec name_token _ inside).2.2 rfl
        · exact (not_mark_of_isBlank (before_blank _ blank)).2.2.2 rfl
      have tight := word.tight_append (word_of_isToken name_token) between
      have name_eq : trim (scheme ++ (between ++ name) ++ before) = scheme ++ (between ++ name) := by
        rw [trim_append_right before_blank, trim_of_tight tight]
      have not_empty : (scheme ++ (between ++ name)).isEmpty = false := by simp [word.1]
      have not_token : isToken (scheme ++ (between ++ name)) = false := by
        obtain ⟨c, others, rfl⟩ := List.exists_cons_of_ne_nil separated
        exact not_isToken_of_blank (c := c) (by simp) (between_blank c List.mem_cons_self)
      rw [trim_eq, parseParam, cut_append_mark no_equals]
      simp only [name_eq, not_empty, not_token, Bool.false_eq_true, if_false, Bool.not_false,
        if_true]

/-- The first element of a challenge, when it is read in the place of parameters, is refused. -/
theorem exists_intruder {text : Text} {second : Challenge} (token : isToken second.scheme = true)
    (parsed : parse (some text) = .ok second) :
    ∃ element others error, elements text = .ok (element :: others) ∧
      parseParam element = .error error ∧ Intruder second error := by
  obtain ⟨before, rest, found, rfl, before_blank, word, ended, split, read⟩ :=
    exists_scheme_append parsed
  obtain ⟨pieces, cut, rfl⟩ := Option.map_eq_some_iff.mp (elements_eq_ok_iff.mp split)
  obtain ⟨piece, others, rfl, piece_whole, -, rest_eq⟩ := whole_of_cut cut
  have scheme_whole : Whole .plain second.scheme := whole_of_unmarked fun c member =>
    ⟨(isToken_spec token c member).1, (isToken_spec token c member).2.1⟩
  have trim_eq : trim (second.scheme ++ piece) = second.scheme ++ trimRight piece :=
    trim_word_append blank_nil word piece
  have not_empty : ¬(trim (second.scheme ++ piece)).isEmpty = true := by simp [trim_eq, word.1]
  have elements_eq : elements (before ++ (second.scheme ++ rest)) =
      .ok (trim (second.scheme ++ piece) :: filled others) := by
    rw [elements_append_blank before_blank, elements_eq_ok_iff, scheme_whole.cut_append, cut,
      Option.map_some, foldr_extendFirst, Option.map_some, filled_cons, if_neg not_empty]
  by_cases empty : (trim piece).isEmpty = true
  · have blank := blank_of_trim (List.isEmpty_iff.mp empty)
    refine ⟨_, _, _, elements_eq, ?_, .scheme⟩
    rw [trim_append_right blank, trim_of_tight word.tight]
    exact parseParam_scheme token
  · rw [filled_cons, if_neg empty] at read
    obtain ⟨param, later, params_eq, first, -⟩ := mapM_cons_eq_ok read
    obtain ⟨between, form, after, rfl, between_blank, after_blank, reading⟩ :=
      exists_paramReading piece_whole first
    -- The scheme ends at a blank, so the first parameter does not start right behind it.
    have separated : between ≠ [] := by
      rintro rfl
      obtain ⟨c, name, form_eq, visible⟩ := reading.exists_cons
      have head : rest.head? = some c := by
        rw [← rest_eq, form_eq]
        cases others <;> rfl
      rw [ended c head] at visible
      cases visible
    refine ⟨_, _, _, elements_eq, ?_, .name params_eq between_blank separated⟩
    rw [← List.append_assoc between, ← List.append_assoc second.scheme,
      trim_append_right after_blank]
    exact parseParam_scheme_append token between_blank separated reading

/-! ## The combined value -/

/-- A comma and a second challenge behind one with parameters make the value unreadable: the second
scheme is taken for an element without a value or for the beginning of a name, and both are refused.
A search for a Bearer challenge passes over the value.  Every rendering is such a second challenge
if its scheme is a token. -/
theorem combined_refused {front gap : Text} {first : Challenge}
    (parsed : parse (some front) = .ok first) (some_param : first.params ≠ [])
    (gap_blank : Blank gap) :
    (∀ second back, isToken second.scheme = true → parse (some back) = .ok second →
      (∃ error, parse (some (front ++ ',' :: (gap ++ back))) = .error error ∧
        Intruder second error) ∧
      ∀ fields name others,
        (findBearer ⟨fields ++ (name, front ++ ',' :: (gap ++ back)) :: others⟩).2 =
          (findBearer ⟨fields ++ others⟩).2) ∧
    ∀ second back, Rendering second back → parse (some back) = .ok second := by
  refine ⟨fun second back token second_parsed => ?_, fun _ _ written => written.parse_eq⟩
  obtain ⟨before, rest, found, front_eq, before_blank, word, ended, split, read⟩ :=
    exists_scheme_append parsed
  obtain ⟨element, later, error, second_split, refused, intruder⟩ :=
    exists_intruder token second_parsed
  have ended_comma : ∀ c, (rest ++ ',' :: (gap ++ back)).head? = some c → isBlank c = true := by
    intro c head
    cases rest with
    | nil =>
        cases split
        exact absurd (Except.ok.inj read).symm some_param
    | cons d rest => exact ended c head
  have gap_split : elements (gap ++ back) = .ok (element :: later) :=
    (elements_append_blank gap_blank).mpr second_split
  have combined : parse (some (front ++ ',' :: (gap ++ back))) = .error error := by
    have value_eq : front ++ ',' :: (gap ++ back) =
        before ++ (first.scheme ++ (rest ++ ',' :: (gap ++ back))) := by
      simp [front_eq]
    rw [value_eq, parse_scheme_append before_blank word ended_comma
      (elements_append_comma split gap_split), List.mapM_append, read, List.mapM_cons, refused]
    rfl
  refine ⟨⟨error, combined, intruder⟩, fun fields name others => ?_⟩
  have idle : offered? (name, front ++ ',' :: (gap ++ back)) = none :=
    offered?_eq_none_iff.mpr (.malformed combined)
  rw [findBearer_eq, findBearer_eq, List.findSome?_append, List.findSome?_append,
    List.findSome?_cons, idle]

/-- A Bearer challenge with a quoted comma and a Basic challenge in one value. -/
theorem combined_refused_basic :
    let front : Text := "Bearer realm=\"https://h/t\", scope=\"a,b\"".toList
    let second : Challenge := ⟨"Basic".toList, [("realm".toList, "r".toList)]⟩
    let back : Text := "Basic realm=r".toList
    let combined : Text := front ++ ',' :: ([' '] ++ back)
    let error : Error := .badName "Basic realm".toList
    ∃ first, parse (some front) = .ok first ∧ first.params ≠ [] ∧ Blank [' '] ∧
      isToken second.scheme = true ∧ parse (some back) = .ok second ∧
      parse (some combined) = .error error ∧ Intruder second error ∧
      (findBearer ⟨[(headerName, combined)]⟩).2 = none := by
  intro front second back combined error
  have parsed : parse (some front) = .ok ⟨"Bearer".toList,
      [("realm".toList, "https://h/t".toList), ("scope".toList, "a,b".toList)]⟩ := rfl
  have second_parsed : parse (some back) = .ok second := rfl
  obtain ⟨refused, -⟩ := combined_refused parsed nofun blank_space
  obtain ⟨⟨found, value_error, intruder⟩, passed⟩ := refused second back rfl second_parsed
  have read : parse (some combined) = .error error := rfl
  obtain rfl : error = found := Except.error.inj (read.symm.trans value_error)
  exact ⟨_, parsed, nofun, blank_space, rfl, second_parsed, read, intruder,
    passed [] headerName []⟩

/-- Without a parameter before it, the comma is part of the first word. -/
example : parse (some "Basic,Bearer realm=r".toList) =
    .ok { scheme := "Basic,Bearer".toList, params := [("realm".toList, "r".toList)] } := rfl

end Challenge
end HttpAuth
