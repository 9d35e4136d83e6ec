import HttpAuth.Proofs.Ascii
import HttpAuth.Proofs.Cutting
import HttpAuth.Proofs.Quoting

/-!
# What is read as a challenge

A challenge is read from the texts of a grammar and from no others.  Every element that is not
blank is a token, an equals sign and a bare or quoted value.  The two checks on a value, that quoted
strings are closed in the whole list and that a value which starts with a quote ends with one, let
more pass than single quoted strings and bare values without quotes: a bare value may hold quotes
behind its first character, and a quoted string may be followed by more text that ends in a quote.
-/

namespace HttpAuth
namespace Challenge

open Text

/-- The second text is read as the first one in the place of a value. -/
inductive ValueReading : Text → Text → Prop where
  /-- A bare value without quotes is read as it stands. -/
  | bare {value : Text} (unquoted : '"' ∉ value) (whole : Whole .plain value) :
      ValueReading value value
  /-- A single quoted string is read as the value of its body. -/
  | quoted {value body : Text} (written : StringBody value body) :
      ValueReading value ('"' :: (body ++ ['"']))
  /-- Quotes behind the first character are part of a bare value. -/
  | interrupted {value : Text} (unopened : value.head? ≠ some '"') (marked : '"' ∈ value)
      (whole : Whole .plain value) : ValueReading value value
  /-- Behind a quoted string more text may stand when it ends in a quote, and the quotes between the
  first one and the last one are part of the value. -/
  | resumed {value body more : Text} (written : StringBody value body)
      (whole : Whole .plain (more ++ ['"'])) :
      ValueReading (value ++ '"' :: unescape more) ('"' :: (body ++ '"' :: (more ++ ['"'])))

/-- The text is read as the parameter. -/
inductive ParamReading : Text × Text → Text → Prop where
  /-- The name, an equals sign between blanks and the value. -/
  | assigned {name value before after form : Text} (token : isToken name = true)
      (before_blank : Blank before) (after_blank : Blank after) (tight : Tight form)
      (read : ValueReading value form) :
      ParamReading (name, value) (name ++ (before ++ '=' :: (after ++ form)))

/-- The pieces between commas are read as the parameters, in order. -/
inductive ListReading : List (Text × Text) → List Text → Prop where
  /-- No piece is read as no parameter. -/
  | nil : ListReading [] []
  /-- A blank piece is skipped. -/
  | blank {params : List (Text × Text)} {piece : Text} {pieces : List Text} (blank : Blank piece)
      (rest : ListReading params pieces) : ListReading params (piece :: pieces)
  /-- A parameter is read without the blanks around it. -/
  | param {param : Text × Text} {params : List (Text × Text)} {before after form : Text}
      {pieces : List Text} (before_blank : Blank before) (after_blank : Blank after)
      (read : ParamReading param form) (rest : ListReading params pieces) :
      ListReading (param :: params) ((before ++ (form ++ after)) :: pieces)

/-! ## Values -/

theorem ValueReading.whole {value form : Text} (read : ValueReading value form) :
    Whole .plain form := by
  cases read with
  | bare _ whole => exact whole
  | quoted written => exact ⟨by simp, written.whole rfl⟩
  | interrupted _ _ whole => exact whole
  | resumed written whole => exact ⟨by simp, written.whole whole⟩

theorem paramValue_quoted (element inner : Text) :
    paramValue element ('"' :: (inner ++ ['"'])) = .ok (unescape inner) := by
  have opened : ('"' :: (inner ++ ['"'])).head? = some '"' := rfl
  have closed : ¬(('"' :: (inner ++ ['"'])).length < 2 ∨
      ('"' :: (inner ++ ['"'])).getLast? ≠ some '"') := by
    rw [← List.cons_append, List.getLast?_concat]
    simp
  have inner_eq : (('"' :: (inner ++ ['"'])).drop 1).dropLast = inner := by simp
  rw [paramValue, if_pos opened, if_neg closed, inner_eq]

/-- A value that starts with a quote is read when it ends with another one. -/
theorem paramValue_eq_ok {element form value : Text}
    (parsed : paramValue element form = .ok value) :
    (form.head? ≠ some '"' ∧ value = form) ∨
      ∃ inner, form = '"' :: (inner ++ ['"']) ∧ value = unescape inner := by
  rw [paramValue] at parsed
  split at parsed
  · rename_i opened
    split at parsed
    · cases parsed
    · rename_i closed
      obtain ⟨long, not_open⟩ := not_or.mp closed
      have last := Decidable.not_not.mp not_open
      obtain ⟨rest, rfl⟩ : ∃ rest, form = '"' :: rest := by
        cases form with
        | nil => cases opened
        | cons c rest =>
            cases opened
            exact ⟨rest, rfl⟩
      have rest_filled : rest ≠ [] := by
        rintro rfl
        simp at long
      rw [List.getLast?_cons_of_ne_nil rest_filled] at last
      obtain ⟨inner, rfl⟩ := List.getLast?_eq_some_iff.mp last
      refine .inr ⟨inner, rfl, ?_⟩
      simpa using parsed.symm
  · rename_i unopened
    exact .inl ⟨unopened, (Except.ok.inj parsed).symm⟩

/-- A whole text is read as a value in exactly these ways. -/
theorem paramValue_eq_ok_iff {element form value : Text} (whole : Whole .plain form) :
    paramValue element form = .ok value ↔ ValueReading value form := by
  constructor
  · intro parsed
    rcases paramValue_eq_ok parsed with ⟨unopened, rfl⟩ | ⟨inner, rfl, rfl⟩
    · by_cases marked : '"' ∈ value
      · exact .interrupted unopened marked whole
      · exact .bare marked whole
    · -- The string that the first quote opens is closed by the last quote or by an earlier one.
      obtain ⟨value, body, tail, inner_eq, written, later⟩ :=
        (exists_stringBody_append _).1 whole.2
      rcases List.eq_nil_or_concat tail with rfl | ⟨more, last, rfl⟩
      · rw [(List.append_inj_left' inner_eq rfl), written.unescape_eq]
        exact .quoted written
      · rw [List.concat_eq_append] at inner_eq later
        rw [← List.cons_append, ← List.append_assoc] at inner_eq
        obtain ⟨rfl, last_eq⟩ := List.append_inj' inner_eq rfl
        obtain rfl : '"' = last := (List.cons.inj last_eq).1
        rw [List.append_assoc, written.unescape_append, unescape_cons (by decide)]
        exact .resumed written later
  · intro read
    cases read with
    | bare unquoted _ =>
        have unopened : form.head? ≠ some '"' := fun head => unquoted (List.mem_of_head? head)
        rw [paramValue, if_neg unopened]
    | quoted written => rw [paramValue_quoted, written.unescape_eq]
    | interrupted unopened _ _ => rw [paramValue, if_neg unopened]
    | @resumed value body more written _ =>
        have form_eq : body ++ '"' :: (more ++ ['"']) = (body ++ '"' :: more) ++ ['"'] := by simp
        rw [form_eq, paramValue_quoted, written.unescape_append, unescape_cons (by decide)]

/-! ## Parameters -/

/-- The characters of a token are printed ones of ASCII. -/
theorem isTokenChar_bounds {c : Char} (token : isTokenChar c = true) :
    0x21 ≤ c.toNat ∧ c.toNat ≤ 0x7E := by
  rw [isTokenChar, Bool.or_eq_true] at token
  rcases token with letter | mark
  · have ranges := isAlphanum_iff.mp letter
    omega
  · have printed : (tokenMarks.all fun d => 0x21 ≤ d.toNat && d.toNat ≤ 0x7E) = true := rfl
    simpa using List.all_eq_true.mp printed c (List.contains_iff_mem.mp mark)

theorem isTokenChar_spec {c : Char} (token : isTokenChar c = true) :
    isBlank c = false ∧ c ≠ ',' ∧ c ≠ '"' ∧ c ≠ '=' := by
  obtain ⟨lower, upper⟩ := isTokenChar_bounds token
  refine ⟨?_, ?_, ?_, ?_⟩
  · simp [isBlank, inRanges, blankRanges]
    omega
  all_goals
    rintro rfl
    revert token
    decide

theorem word_of_isToken {name : Text} (token : isToken name = true) : Word name := by
  rw [isToken, Bool.and_eq_true, List.all_eq_true] at token
  refine ⟨?_, fun c member => (isTokenChar_spec (token.2 c member)).1⟩
  rintro rfl
  cases token.1

theorem isToken_spec {name : Text} (token : isToken name = true) :
    ∀ c ∈ name, c ≠ ',' ∧ c ≠ '"' ∧ c ≠ '=' := by
  rw [isToken, Bool.and_eq_true, List.all_eq_true] at token
  exact fun c member => (isTokenChar_spec (token.2 c member)).2

namespace ParamReading

variable {param : Text × Text} {form : Text}

theorem whole (read : ParamReading param form) : Whole .plain form := by
  cases read with
  | assigned token before_blank after_blank _ read =>
      have equals : Whole .plain ['='] := ⟨by simp, by simp [Mode.next, Whole]⟩
      have name_whole := whole_of_unmarked fun c member =>
        ⟨(isToken_spec token c member).1, (isToken_spec token c member).2.1⟩
      have value_whole := (whole_of_blank after_blank).append read.whole
      exact name_whole.append ((whole_of_blank before_blank).append (equals.append value_whole))

theorem parseParam_trim (read : ParamReading param form) :
    trim form ≠ [] ∧ parseParam (trim form) = .ok param := by
  cases read with
  | @assigned name value before after form token before_blank after_blank tight read =>
      have word := word_of_isToken token
      -- With an empty bare value the blanks after the equals sign are trimmed with the element, and
      -- otherwise with the value.
      have trim_eq : trim (name ++ (before ++ '=' :: (after ++ form))) =
          (name ++ before) ++ '=' :: trimRight (after ++ form) := by
        have trimmed := trim_word_append blank_nil word (before ++ '=' :: (after ++ form))
        rw [List.nil_append] at trimmed
        rw [trimmed, trimRight_append_cons before (by decide), List.append_assoc]
      have no_equals : '=' ∉ name ++ before := by
        intro member
        rcases List.mem_append.mp member with inside | inside
        · exact (isToken_spec token '=' inside).2.2 rfl
        · exact (not_mark_of_isBlank (before_blank '=' inside)).2.2.2 rfl
      have name_eq : trim (name ++ before) = name := by
        rw [trim_append_right before_blank, trim_of_tight word.tight]
      have value_eq : trim (trimRight (after ++ form)) = form := by
        rw [trim_trimRight, trim_append_left after_blank, trim_of_tight tight]
      have name_filled : name.isEmpty = false := by simpa using word.1
      have parsed : ∀ element, paramValue element form = .ok value :=
        fun element => (paramValue_eq_ok_iff read.whole).mpr read
      refine ⟨by simp [trim_eq], ?_⟩
      rw [trim_eq, parseParam, cut_append_mark no_equals]
      simp only [name_eq, value_eq, name_filled, token, parsed, Bool.not_true,
        Bool.false_eq_true, if_false]
      rfl

end ParamReading

/-- A parameter is read from a token, an equals sign and a form of its value. -/
theorem parseParam_eq_ok {element name value : Text}
    (parsed : parseParam element = .ok (name, value)) :
    isToken name = true ∧ ∃ before after, cut '=' element = (before, some after) ∧
      name = trim before ∧ paramValue element (trim after) = .ok value := by
  simp only [parseParam] at parsed
  split at parsed
  · cases parsed
  · rename_i before after cut_eq
    split at parsed
    · cases parsed
    · split at parsed
      · cases parsed
      · rename_i token
        cases read : paramValue element (trim after) with
        | error error =>
            rw [read] at parsed
            cases parsed
        | ok read_value =>
            rw [read] at parsed
            cases parsed
            exact ⟨by simpa using token, before, after, cut_eq, rfl, read⟩

/-- A whole piece from which a parameter is read has its form between blanks. -/
theorem exists_paramReading {piece : Text} {param : Text × Text} (whole : Whole .plain piece)
    (parsed : parseParam (trim piece) = .ok param) :
    ∃ before form after, piece = before ++ (form ++ after) ∧ Blank before ∧ Blank after ∧
      ParamReading param form := by
  obtain ⟨name, value⟩ := param
  obtain ⟨token, front, back, parts, rfl, read⟩ := parseParam_eq_ok parsed
  obtain ⟨outer, behind, outer_blank, behind_blank, piece_eq⟩ := exists_trim_append piece
  obtain ⟨inner, before, inner_blank, before_blank, front_eq⟩ := exists_trim_append front
  obtain ⟨after, last, after_blank, last_blank, back_eq⟩ := exists_trim_append back
  have element_eq := eq_of_cut parts
  rw [front_eq, back_eq] at element_eq
  rw [element_eq] at piece_eq
  have form_eq : piece = (outer ++ inner) ++
      ((trim front ++ (before ++ '=' :: (after ++ trim back))) ++ (last ++ behind)) := by
    simp [piece_eq]
  -- No quote stands before the value, so a reader of the piece is outside quoted strings there.
  have unquoted : '"' ∉ outer ++ (inner ++ (trim front ++ (before ++ '=' :: after))) := by
    intro member
    simp only [List.mem_append, List.mem_cons] at member
    rcases member with blank | blank | inside | blank | mark | blank
    · exact (not_mark_of_isBlank (outer_blank _ blank)).2.1 rfl
    · exact (not_mark_of_isBlank (inner_blank _ blank)).2.1 rfl
    · exact (isToken_spec token _ inside).2.1 rfl
    · exact (not_mark_of_isBlank (before_blank _ blank)).2.1 rfl
    · cases mark
    · exact (not_mark_of_isBlank (after_blank _ blank)).2.1 rfl
  have split_eq : piece = (outer ++ (inner ++ (trim front ++ (before ++ '=' :: after)))) ++
      (trim back ++ (last ++ behind)) := by
    simp [piece_eq]
  rw [split_eq] at whole
  have value_whole : Whole .plain (trim back) :=
    (whole.of_append unquoted).of_append_blank (last_blank.append behind_blank)
  refine ⟨outer ++ inner, _, last ++ behind, form_eq, outer_blank.append inner_blank,
    last_blank.append behind_blank, ?_⟩
  exact .assigned token before_blank after_blank (tight_trim back)
    ((paramValue_eq_ok_iff value_whole).mp read)

/-! ## Lists -/

theorem mapM_cons_eq_ok {element : Text} {others : List Text} {params : List (Text × Text)}
    (parsed : (element :: others).mapM parseParam = .ok params) :
    ∃ param later, params = param :: later ∧ parseParam element = .ok param ∧
      others.mapM parseParam = .ok later := by
  rw [List.mapM_cons] at parsed
  cases first : parseParam element with
  | error error =>
      rw [first] at parsed
      cases parsed
  | ok param =>
      cases rest : others.mapM parseParam with
      | error error =>
          rw [first, rest] at parsed
          cases parsed
      | ok later =>
          rw [first, rest] at parsed
          cases parsed
          exact ⟨param, later, rfl, rfl, rfl⟩

theorem exists_of_mapM {found : List Text} {params : List (Text × Text)}
    (parsed : found.mapM parseParam = .ok params) :
    ∀ param ∈ params, ∃ element ∈ found, parseParam element = .ok param := by
  induction found generalizing params with
  | nil =>
      cases parsed
      nofun
  | cons element others induction =>
      obtain ⟨param, later, rfl, first, rest⟩ := mapM_cons_eq_ok parsed
      intro other member
      rcases List.mem_cons.mp member with rfl | member
      · exact ⟨element, List.mem_cons_self, first⟩
      · obtain ⟨source, inside, source_eq⟩ := induction rest other member
        exact ⟨source, List.mem_cons_of_mem element inside, source_eq⟩

namespace ListReading

variable {params : List (Text × Text)} {pieces : List Text}

theorem whole (read : ListReading params pieces) : ∀ piece ∈ pieces, Whole .plain piece := by
  induction read with
  | nil => nofun
  | blank blank _ induction =>
      intro piece member
      rcases List.mem_cons.mp member with rfl | later
      · exact whole_of_blank blank
      · exact induction piece later
  | param before_blank after_blank read _ induction =>
      intro piece member
      rcases List.mem_cons.mp member with rfl | later
      · have behind := read.whole.append (whole_of_blank after_blank)
        exact (whole_of_blank before_blank).append behind
      · exact induction piece later

theorem mapM_filled (read : ListReading params pieces) :
    (filled pieces).mapM parseParam = .ok params := by
  induction read with
  | nil => rfl
  | blank blank _ induction => rw [filled_cons_of_blank blank, induction]
  | @param param params before after form pieces before_blank after_blank read _ induction =>
      obtain ⟨some_text, parsed⟩ := read.parseParam_trim
      have trim_eq : trim (before ++ (form ++ after)) = trim form := by
        rw [trim_append_left before_blank, trim_append_right after_blank]
      have not_empty : ¬(trim form).isEmpty = true := by simpa using some_text
      rw [filled_cons, trim_eq, if_neg not_empty, List.mapM_cons, parsed, induction]
      rfl

end ListReading

/-- Whole pieces are read in no other way. -/
theorem listReading_of_mapM {pieces : List Text} {params : List (Text × Text)}
    (whole : ∀ piece ∈ pieces, Whole .plain piece)
    (parsed : (filled pieces).mapM parseParam = .ok params) : ListReading params pieces := by
  induction pieces generalizing params with
  | nil =>
      cases parsed
      exact .nil
  | cons piece others induction =>
      have first_whole := whole piece List.mem_cons_self
      have others_whole : ∀ other ∈ others, Whole .plain other :=
        fun other member => whole other (List.mem_cons_of_mem piece member)
      rw [filled_cons] at parsed
      split at parsed
      · rename_i empty
        exact .blank (blank_of_trim (List.isEmpty_iff.mp empty)) (induction others_whole parsed)
      · obtain ⟨param, later, rfl, first, rest⟩ := mapM_cons_eq_ok parsed
        obtain ⟨before, form, after, rfl, before_blank, after_blank, read⟩ :=
          exists_paramReading first_whole first
        exact .param before_blank after_blank read (induction others_whole rest)

/-! ## Challenges -/

/-- What is read from a text is its first word and its elements, read one by one. -/
theorem parse_eq_ok {value : Option Text} {challenge : Challenge}
    (parsed : parse value = .ok challenge) :
    trim (value.getD []) ≠ [] ∧ challenge.scheme = firstWord (trim (value.getD [])) ∧
      ∃ found, elements (afterFirstWord (trim (value.getD []))) = .ok found ∧
        found.mapM parseParam = .ok challenge.params := by
  rw [parse] at parsed
  cases empty : (trim (value.getD [])).isEmpty with
  | true => simp [empty] at parsed
  | false =>
      simp only [empty, Bool.false_eq_true, if_false] at parsed
      cases split : elements (afterFirstWord (trim (value.getD []))) with
      | error error =>
          rw [split] at parsed
          cases parsed
      | ok found =>
          rw [split] at parsed
          cases read : found.mapM parseParam with
          | error error =>
              change (found.mapM parseParam >>= _) = _ at parsed
              rw [read] at parsed
              cases parsed
          | ok params =>
              change (found.mapM parseParam >>= _) = _ at parsed
              rw [read] at parsed
              cases parsed
              exact ⟨by simpa using empty, rfl, found, rfl, read⟩

/-- A text whose elements are known is read by reading them one by one. -/
theorem parse_eq_map {value : Option Text} {found : List Text}
    (some_text : trim (value.getD []) ≠ [])
    (split : elements (afterFirstWord (trim (value.getD []))) = .ok found) :
    parse value = (found.mapM parseParam).map fun params =>
      { scheme := firstWord (trim (value.getD [])), params } := by
  have not_empty : (trim (value.getD [])).isEmpty = false := by simpa using some_text
  rw [parse]
  simp only [not_empty, Bool.false_eq_true, if_false, split]
  change (do
    let params ← found.mapM parseParam
    return ({ scheme := _, params } : Challenge)) = _
  cases found.mapM parseParam <;> rfl

/-- A challenge is read from a scheme and the elements behind it. -/
theorem parse_scheme_append {before scheme rest : Text} {found : List Text}
    (before_blank : Blank before) (word : Word scheme)
    (ended : ∀ c, rest.head? = some c → isBlank c = true) (split : elements rest = .ok found) :
    parse (some (before ++ (scheme ++ rest))) =
      (found.mapM parseParam).map fun params => { scheme, params } := by
  -- Trimming the text may take blanks from its last element, which is trimmed anyway.
  have trim_eq : trim ((some (before ++ (scheme ++ rest))).getD []) = scheme ++ trimRight rest :=
    trim_word_append before_blank word rest
  have ended_right : ∀ c, (trimRight rest).head? = some c → isBlank c = true :=
    fun c head => ended c (head?_trimRight head)
  have split_right : elements (trimLeft (trimRight rest)) = .ok found := by
    rw [elements_trimLeft, elements_trimRight, split]
  have some_text : trim ((some (before ++ (scheme ++ rest))).getD []) ≠ [] := by
    rw [trim_eq]
    simp [word.1]
  have read := parse_eq_map some_text
    (by rwa [trim_eq, afterFirstWord_append word.2 ended_right])
  rwa [trim_eq, firstWord_append word.2 ended_right] at read

/-- A challenge is read from a text when its scheme is the first word and the text behind that word
is a list of pieces with commas between them that are read as its parameters, and never else. -/
theorem parse_eq_ok_iff_listReading (value : Option Text) (challenge : Challenge) :
    parse value = .ok challenge ↔
      trim (value.getD []) ≠ [] ∧ challenge.scheme = firstWord (trim (value.getD [])) ∧
        ∃ pieces, joined ',' pieces = afterFirstWord (trim (value.getD [])) ∧
          ListReading challenge.params pieces := by
  constructor
  · intro parsed
    obtain ⟨some_text, scheme_eq, found, split, read⟩ := parse_eq_ok parsed
    obtain ⟨pieces, cut, rfl⟩ := Option.map_eq_some_iff.mp (elements_eq_ok_iff.mp split)
    obtain ⟨first, others, rfl, first_whole, whole, text_eq⟩ := whole_of_cut cut
    have all_whole : ∀ piece ∈ first :: others, Whole .plain piece := by
      intro piece member
      rcases List.mem_cons.mp member with rfl | later
      · exact first_whole
      · exact whole piece later
    exact ⟨some_text, scheme_eq, _, text_eq, listReading_of_mapM all_whole read⟩
  · obtain ⟨scheme, params⟩ := challenge
    rintro ⟨some_text, rfl, pieces, text_eq, read⟩
    have split := elements_joined read.whole
    rw [text_eq] at split
    rw [parse_eq_map some_text split, read.mapM_filled]
    rfl

/-- A parameter is read from a quoted string with more text behind its closing quote, which is no
single quoted string, and its value holds the quotes in between. -/
theorem parse_reads_text_behind_closing_quote :
    let form : Text := "\"https://h/t\" junk \"x\"".toList
    parse (some ("Bearer realm=".toList ++ form)) =
        .ok { scheme := "Bearer".toList
              params := [("realm".toList, "https://h/t\" junk \"x".toList)] } ∧
      '"' ∈ form ∧ ¬∃ value body, StringBody value body ∧ form = '"' :: (body ++ ['"']) := by
  intro form
  refine ⟨rfl, by decide, ?_⟩
  rintro ⟨value, body, written, form_eq⟩
  have first : StringBody "https://h/t".toList "https://h/t".toList :=
    .of_unmarked (by simp)
  have same : "https://h/t".toList ++ '"' :: " junk \"x\"".toList = body ++ '"' :: [] :=
    (List.cons.inj form_eq).2
  obtain ⟨-, rest_eq⟩ := first.body_unique written same
  cases rest_eq

end Challenge
end HttpAuth
