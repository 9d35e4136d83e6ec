import HttpAuth.Proofs.JsonText

/-!
# The reading of JSON texts

The reader gives a value exactly for the texts that write it and go beyond no limit, and it stops at
a limit exactly where the grammar comes to an excess.
-/

namespace HttpAuth
namespace Json

variable {α β : Type}

/-! ## Outcomes -/

/-- The reader stops where the text goes beyond a limit. -/
def Stops (result : Except Stop α) : Prop :=
  ∃ excess, result = .error (.excess excess)

/-- The reader gives the result, unless it stops where the text goes beyond a limit. -/
def Yields (result : Except Stop α) (a : α) : Prop :=
  result = .ok a ∨ Stops result

theorem Stops.bind {result : Except Stop α} (stops : Stops result) (next : α → Except Stop β) :
    Stops (result >>= next) := by
  obtain ⟨excess, rfl⟩ := stops
  exact ⟨excess, rfl⟩

theorem Yields.bind {result : Except Stop α} {a : α} {b : β} {next : α → Except Stop β}
    (first : Yields result a) (later : Yields (next a) b) : Yields (result >>= next) b := by
  rcases first with rfl | stops
  · exact later
  · exact .inr (stops.bind next)

theorem Yields.bind_stops {result : Except Stop α} {a : α} {next : α → Except Stop β}
    (first : Yields result a) (later : Stops (next a)) : Stops (result >>= next) := by
  rcases first with rfl | stops
  · exact later
  · exact stops.bind next

/-- Only a fault may fail to be reported. -/
theorem Stops.enter {full : Excess} {left : Nat} {read : Nat → Except Stop α}
    (stops : Stops (read left)) : Stops (Json.enter full (left + 1) read) := by
  obtain ⟨excess, stopped⟩ := stops
  rw [Json.enter, stopped]
  exact ⟨excess, rfl⟩

theorem Yields.enter {full : Excess} {levels : Nat} {read : Nat → Except Stop α} {a : α}
    (inside : ∀ left, Yields (read left) a) : Yields (Json.enter full levels read) a := by
  cases levels with
  | zero => exact .inr ⟨full, rfl⟩
  | succ left =>
      rcases inside left with given | stops
      · rw [Json.enter, given]
        exact .inl rfl
      · exact .inr stops.enter

/-- Read a part with a bound and with so many levels. -/
def Part.read : (part : Part) → Nat → Nat → Text → Except Stop (part.Meaning × Text)
  | .value => Json.value
  | .items => elements
  | .members => Json.members

/-- What a reading says about the text, when so many levels are left and when faults are reported
up to so many levels: the text is a written form and the rest, or it goes beyond a limit, or it is
nested too deep for a report. -/
def Accounted (part : Part) (levels reporting : Nat) (text : Text) :
    Except Stop (part.Meaning × Text) → Prop
  | .ok (meaning, rest) => ∃ form, Written part meaning form ∧ text = form ++ rest
  | .error (.excess excess) => Exceeds excess levels part text
  | .error .unreported => ∃ excess, Exceeds excess reporting part text
  | .error (.fault _ _) => True

/-- A part is accounted for when what is inside is, at the depth where it stands. -/
theorem Accounted.bind {inner outer : Part} {levels reporting : Nat} {text whole : Text}
    {result : Except Stop (inner.Meaning × Text)}
    {next : inner.Meaning × Text → Except Stop (outer.Meaning × Text)} (depth : Nat)
    (accounted : Accounted inner levels reporting text result)
    (lift : ∀ {excess levels}, Exceeds excess levels inner text →
      Exceeds excess (levels + depth) outer whole)
    (later : ∀ meaning form rest, Written inner meaning form → text = form ++ rest →
      Accounted outer (levels + depth) (reporting + depth) whole (next (meaning, rest))) :
    Accounted outer (levels + depth) (reporting + depth) whole (result >>= next) := by
  match result, accounted with
  | .ok (meaning, rest), ⟨form, written, text_eq⟩ =>
      exact later meaning form rest written text_eq
  | .error (.excess excess), exceeds => exact lift exceeds
  | .error .unreported, ⟨excess, exceeds⟩ => exact ⟨excess, lift exceeds⟩
  | .error (.fault _ _), _ => trivial

/-- A fault goes unreported only where too few levels are left. -/
theorem Accounted.reported {part : Part} {full : Excess} {left : Nat} {text : Text}
    {result : Except Stop (part.Meaning × Text)} (outside : Exceeds full 0 part text)
    (accounted : Accounted part (left + 1) (left - reportLevels + 1) text result) :
    Accounted part (left + 1) (left + 1 - reportLevels) text (Json.reported left result) := by
  have shallow (few : ¬reportLevels ≤ left) : left + 1 - reportLevels = 0 :=
    Nat.sub_eq_zero_of_le (Nat.lt_of_not_le few)
  match result, accounted with
  | .ok (meaning, rest), written => exact written
  | .error (.excess excess), exceeds => exact exceeds
  | .error .unreported, ⟨excess, exceeds⟩ =>
      by_cases enough : reportLevels ≤ left
      · refine ⟨excess, ?_⟩
        rwa [Nat.sub_add_comm enough]
      · refine ⟨full, ?_⟩
        rwa [shallow enough]
  | .error (.fault fault rest), _ =>
      rw [Json.reported]
      split
      · trivial
      · rename_i lost
        refine ⟨full, ?_⟩
        rwa [shallow (not_or.mp lost).2]

theorem Accounted.enter {full : Excess} {part : Part} {levels : Nat} {text : Text}
    {read : Nat → Except Stop (part.Meaning × Text)} (outside : Exceeds full 0 part text)
    (inside : ∀ left, Accounted part (left + 1) (left - reportLevels + 1) text (read left)) :
    Accounted part levels (levels - reportLevels) text (Json.enter full levels read) := by
  cases levels with
  | zero => exact outside
  | succ left => exact (inside left).reported outside

/-! ## One step of the reader -/

variable {bound levels : Nat} {text rest : Text}

theorem value_quote (opened : text.head? = some '"') :
    value (bound + 1) levels text =
      quotedString bound text >>= fun string => .ok (.string string.1, string.2) := by
  obtain ⟨inside, rfl⟩ := List.head?_eq_some_iff.mp opened
  rfl

theorem value_bracket (bound levels : Nat) (text : Text) :
    value (bound + 1) levels ('[' :: text) =
      enter .array levels fun left =>
        if (skip text).head? = some ']' then
          .ok (.array [], (skip text).drop 1)
        else
          elements bound left (skip text) >>= fun items => .ok (.array items.1, items.2) :=
  rfl

theorem value_brace (bound levels : Nat) (text : Text) :
    value (bound + 1) levels ('{' :: text) =
      enter .object levels fun left =>
        if (skip text).head? = some '}' then
          .ok (.object [], (skip text).drop 1)
        else
          members bound left (skip text) >>= fun members => .ok (.object members.1, members.2) :=
  rfl

theorem value_scalar {c : Char} (plain : c ∉ ['"', '[', '{']) (rest : Text) :
    value (bound + 1) levels (c :: rest) = scalar (c :: rest) := by
  rw [value]
  split
  · rename_i head
    exact absurd (Option.some.inj head ▸ List.mem_cons_self) plain
  · rename_i head
    exact absurd (by rw [Option.some.inj head]; decide) plain
  · rename_i head
    exact absurd (by rw [Option.some.inj head]; decide) plain
  · rfl

theorem elements_eq (bound levels : Nat) (text : Text) :
    elements (bound + 1) levels text =
      value bound levels text >>= fun item =>
        match (skip item.2).head? with
        | some ']' => .ok ([item.1], (skip item.2).drop 1)
        | some ',' =>
            elements bound levels (skip ((skip item.2).drop 1)) >>= fun items =>
              .ok (item.1 :: items.1, items.2)
        | _ => .error (.fault .comma (skip item.2)) :=
  rfl

theorem members_eq (opened : text.head? = some '"') :
    members (bound + 1) levels text =
      quotedString bound text >>= fun name =>
        if (skip name.2).head? ≠ some ':' then
          .error (.fault .colon (skip name.2))
        else
          value bound levels (skip ((skip name.2).drop 1)) >>= fun item =>
            match (skip item.2).head? with
            | some '}' => .ok ([(name.1, item.1)], (skip item.2).drop 1)
            | some ',' =>
                members bound levels (skip ((skip item.2).drop 1)) >>= fun members =>
                  .ok ((name.1, item.1) :: members.1, members.2)
            | _ => .error (.fault .comma (skip item.2)) := by
  rw [members, if_neg (not_not_intro opened)]
  rfl

/-! ## What a step yields -/

section Steps

variable {item : Json} {items : List Json} {others : List (CodePoints × Json)} {name : CodePoints}
variable {after inside tail next : Text}

theorem Yields.last_item (first : Yields (value bound levels text) (item, tail))
    (closed : skip tail = ']' :: rest) :
    Yields (elements (bound + 1) levels text) ([item], rest) := by
  rw [elements_eq]
  refine first.bind ?_
  simp only [closed]
  exact .inl rfl

theorem Yields.more_items (first : Yields (value bound levels text) (item, tail))
    (more : skip tail = ',' :: next)
    (later : Yields (elements bound levels (skip next)) (items, rest)) :
    Yields (elements (bound + 1) levels text) (item :: items, rest) := by
  rw [elements_eq]
  refine first.bind ?_
  simp only [more]
  exact later.bind (.inl rfl)

theorem Stops.more_items (first : Yields (value bound levels text) (item, tail))
    (more : skip tail = ',' :: next) (later : Stops (elements bound levels (skip next))) :
    Stops (elements (bound + 1) levels text) := by
  rw [elements_eq]
  refine first.bind_stops ?_
  simp only [more]
  exact later.bind _

variable (opened : text.head? = some '"') (named : quotedString bound text = .ok (name, after))
variable (colon : skip after = ':' :: inside)
include opened named colon

theorem Yields.last_member (first : Yields (value bound levels (skip inside)) (item, tail))
    (closed : skip tail = '}' :: rest) :
    Yields (members (bound + 1) levels text) ([(name, item)], rest) := by
  rw [members_eq opened]
  refine Yields.bind (.inl named) ?_
  simp only [colon]
  refine first.bind ?_
  simp only [closed]
  exact .inl rfl

theorem Yields.more_members (first : Yields (value bound levels (skip inside)) (item, tail))
    (more : skip tail = ',' :: next)
    (later : Yields (Json.members bound levels (skip next)) (others, rest)) :
    Yields (Json.members (bound + 1) levels text) ((name, item) :: others, rest) := by
  rw [members_eq opened]
  refine Yields.bind (.inl named) ?_
  simp only [colon]
  refine first.bind ?_
  simp only [more]
  exact later.bind (.inl rfl)

theorem Stops.this_member (first : Stops (value bound levels (skip inside))) :
    Stops (members (bound + 1) levels text) := by
  rw [members_eq opened]
  refine Yields.bind_stops (.inl named) ?_
  simp only [colon]
  exact first.bind _

theorem Stops.more_members (first : Yields (value bound levels (skip inside)) (item, tail))
    (more : skip tail = ',' :: next) (later : Stops (Json.members bound levels (skip next))) :
    Stops (Json.members (bound + 1) levels text) := by
  rw [members_eq opened]
  refine Yields.bind_stops (.inl named) ?_
  simp only [colon]
  refine first.bind_stops ?_
  simp only [more]
  exact later.bind _

end Steps

/-! ## Words and numbers -/

/-- A word is read from the start of any text. -/
theorem scalar_word {item : Json} {form : Text} (listed : (form, item) ∈ words) (rest : Text) :
    scalar (form ++ rest) = .ok (item, rest) := by
  simp only [words, List.mem_cons, Prod.mk.injEq, List.not_mem_nil, or_false] at listed
  rcases listed with ⟨rfl, rfl⟩ | ⟨rfl, rfl⟩ | ⟨rfl, rfl⟩ | ⟨rfl, rfl⟩ | ⟨rfl, rfl⟩ |
    ⟨rfl, rfl⟩ <;> rfl

/-- No word begins like a number. -/
theorem scalar_numeral (numeral : Numeral) (rest : Text) :
    scalar (numeral.text ++ rest) = number (numeral.text ++ rest) := by
  obtain ⟨d, others, whole_eq⟩ := List.exists_cons_of_ne_nil numeral.whole_filled
  have digit := numeral.whole_digits d (whole_eq ▸ List.mem_cons_self)
  have other {c : Char} (no_digit : c.isDigit = false) : c ≠ d := by
    rintro rfl
    rw [digit] at no_digit
    cases no_digit
  have no_word : words.find? (fun word => word.1.isPrefixOf (numeral.text ++ rest)) = none := by
    cases sign : numeral.negative <;>
      simp [words, Numeral.text, sign, whole_eq, List.isPrefixOf, other]
  rw [scalar, no_word]

theorem value_numeral (numeral : Numeral) (rest : Text) :
    value (bound + 1) levels (numeral.text ++ rest) = number (numeral.text ++ rest) := by
  obtain ⟨c, others, text_eq, start⟩ := numeral.text_start
  have plain : c ∉ ['"', '[', '{'] := by
    have none_digit : ∀ c ∈ ['"', '[', '{'], c ≠ '-' ∧ c.isDigit = false :=
      Text.forall_listed (fun c => c ≠ '-' ∧ c.isDigit = false) (by decide)
    intro listed
    rcases start with minus | digit
    · exact (none_digit c listed).1 minus
    · rw [(none_digit c listed).2] at digit
      cases digit
  rw [← scalar_numeral, text_eq, List.cons_append, value_scalar plain]

/-- The text does not continue a part that stands before it. -/
def Delimited (text : Text) : Prop :=
  ∀ c ∈ text.head?, c ∈ [' ', '\t', '\n', '\r', ',', ']', '}']

theorem Delimited.endsBefore (delimited : Delimited rest) (numeral : Numeral) :
    numeral.EndsBefore rest := by
  have outside : ∀ c ∈ rest.head?, c.isDigit = false ∧ c ∉ ['.', 'e', 'E'] := by
    have all : ∀ c ∈ [' ', '\t', '\n', '\r', ',', ']', '}'],
        c.isDigit = false ∧ c ∉ ['.', 'e', 'E'] :=
      Text.forall_listed (fun c => c.isDigit = false ∧ c ∉ ['.', 'e', 'E']) (by decide)
    exact fun c head => all c (delimited c head)
  refine ⟨.inr fun c head => (outside c head).1, ?_, ?_⟩
  · rintro - d - ⟨others, rfl⟩
    exact (outside '.' rfl).2 (by decide)
  · rintro - exponent ⟨others, rfl⟩
    have mark := (outside exponent.mark rfl).2
    rcases exponent.mark_letter with letter | letter <;> exact mark (by rw [letter]; decide)

theorem delimited_cons {c : Char} (closing : c ∈ [',', ']', '}']) (rest : Text) :
    Delimited (c :: rest) := by
  rintro _ ⟨⟩
  exact List.mem_append_right [' ', '\t', '\n', '\r'] closing

theorem Gap.delimited {gap : Text} (blank : Gap gap) : Delimited gap :=
  fun c head => List.mem_append_left [',', ']', '}'] (blank c (List.mem_of_head? head))

theorem Gap.delimited_append {gap : Text} (blank : Gap gap) (delimited : Delimited rest) :
    Delimited (gap ++ rest) := by
  cases gap with
  | nil => exact delimited
  | cons c gap =>
      rintro _ ⟨⟩
      exact List.mem_append_left [',', ']', '}'] (blank c List.mem_cons_self)

theorem Mark.delimited {form : Text} (comma : Mark ',' form) (rest : Text) :
    Delimited (form ++ rest) := by
  obtain ⟨before, after, blank, -, rfl⟩ := comma
  rw [List.append_assoc]
  exact blank.delimited_append (delimited_cons (by decide) (after ++ rest))

/-- A written part is read, whatever follows it. -/
theorem Written.read_yields {part : Part} {meaning : part.Meaning} {form : Text}
    (written : Written part meaning form) {bound levels : Nat} {rest : Text}
    (enough : form.length < bound) (delimited : Delimited rest) :
    Yields (part.read bound levels (form ++ rest)) (meaning, rest) := by
  induction written generalizing bound levels rest <;>
    obtain ⟨bound, rfl⟩ := Nat.exists_eq_add_one.mpr (Nat.zero_lt_of_lt enough) <;>
    simp only [Part.read, List.append_assoc, List.cons_append, List.nil_append]
  case word value form listed =>
    obtain ⟨c, others, word_eq, letter⟩ := word_start listed
    have plain : c ∉ ['"', '[', '{'] :=
      Text.forall_listed (· ∉ ['"', '[', '{']) (by decide) c letter
    have read := scalar_word listed rest
    rw [word_eq, List.cons_append] at read ⊢
    exact .inl ((value_scalar plain _).trans read)
  case number numeral =>
    rw [value_numeral, Numeral.number_eq (delimited.endsBefore numeral)]
    split
    · exact .inr ⟨_, rfl⟩
    · exact .inl rfl
  case string codes form quoted =>
    rw [value_quote (quoted.head?_append rest)]
    exact Yields.bind (.inl (quoted.quotedString_eq (Nat.le_of_lt_succ enough) rest)) (.inl rfl)
  case emptyArray gap blank =>
    rw [value_bracket, skip_gap_cons blank (by decide)]
    refine Yields.enter fun left => ?_
    rw [if_pos List.head?_cons]
    exact .inl rfl
  case array items gap form blank inside induction =>
    simp only [List.length_append, List.length_cons] at enough
    have begins := inside.begins.append rest
    rw [value_bracket, skip_gap blank, begins.skip_eq]
    refine Yields.enter fun left => ?_
    rw [if_neg (begins.head_ne (by decide))]
    exact Yields.bind (induction (by omega) delimited) (.inl rfl)
  case emptyObject gap blank =>
    rw [value_brace, skip_gap_cons blank (by decide)]
    refine Yields.enter fun left => ?_
    rw [if_pos List.head?_cons]
    exact .inl rfl
  case object members gap form blank inside induction =>
    simp only [List.length_append, List.length_cons] at enough
    have begins := inside.begins.append rest
    rw [value_brace, skip_gap blank, begins.skip_eq]
    refine Yields.enter fun left => ?_
    rw [if_neg (begins.head_ne (by decide))]
    exact Yields.bind (induction (by omega) delimited) (.inl rfl)
  case item item form gap item_form blank induction =>
    simp only [List.length_append, List.length_cons] at enough
    have closing : Delimited (']' :: rest) := delimited_cons (by decide) rest
    exact Yields.last_item (induction (by omega) (blank.delimited_append closing))
      (skip_gap_cons blank (by decide) rest)
  case items item items form comma more item_form comma_mark later item_induction induction =>
    simp only [List.length_append] at enough
    have comma_filled := comma_mark.length_pos
    obtain ⟨next, found, next_eq⟩ :=
      comma_mark.skip_append (by decide) (later.begins.append rest)
    refine Yields.more_items (item_induction (by omega) (comma_mark.delimited _)) found ?_
    rw [next_eq]
    exact induction (by omega) delimited
  case member name value name_form colon form gap name_quoted colon_mark value_form blank
      induction =>
    simp only [List.length_append, List.length_cons] at enough
    have closing : Delimited ('}' :: rest) := delimited_cons (by decide) rest
    obtain ⟨inside, found, inside_eq⟩ :=
      colon_mark.skip_append (by decide) (value_form.begins.append (gap ++ '}' :: rest))
    have named := name_quoted.quotedString_eq (show name_form.length ≤ bound by omega)
      (colon ++ (form ++ (gap ++ '}' :: rest)))
    refine Yields.last_member (name_quoted.head?_append _) named found ?_
      (skip_gap_cons blank (by decide) rest)
    rw [inside_eq]
    exact induction (by omega) (blank.delimited_append closing)
  case members name value members name_form colon form comma more name_quoted colon_mark
      value_form comma_mark later value_induction induction =>
    simp only [List.length_append] at enough
    have comma_filled := comma_mark.length_pos
    obtain ⟨inside, found, inside_eq⟩ :=
      colon_mark.skip_append (by decide) (value_form.begins.append (comma ++ (more ++ rest)))
    obtain ⟨next, comma_found, next_eq⟩ :=
      comma_mark.skip_append (by decide) (later.begins.append rest)
    have named := name_quoted.quotedString_eq (show name_form.length ≤ bound by omega)
      (colon ++ (form ++ (comma ++ (more ++ rest))))
    refine Yields.more_members (name_quoted.head?_append _) named found ?_ comma_found ?_
    · rw [inside_eq]
      exact value_induction (by omega) (comma_mark.delimited _)
    · rw [next_eq]
      exact induction (by omega) delimited

/-! ## An excess stops the reader -/

/-- What a part needs of the bound beyond twice its length. -/
def Part.slack : Part → Nat
  | .value => 1
  | .items => 2
  | .members => 2

/-- The reader comes to the excess and stops there, or earlier at another one. -/
theorem Exceeds.read_stops {excess : Excess} {levels : Nat} {part : Part} {text : Text}
    (exceeds : Exceeds excess levels part text) {bound : Nat}
    (enough : 2 * text.length + part.slack ≤ bound) : Stops (part.read bound levels text) := by
  induction exceeds generalizing bound <;>
    simp only [List.length_append, List.length_cons, Part.slack] at enough <;>
    obtain ⟨bound, rfl⟩ := Nat.exists_eq_add_one.mpr (Nat.lt_of_lt_of_le (by omega) enough) <;>
    rw [Part.read]
  case integer levels numeral rest integer long ends =>
    rw [value_numeral, Numeral.number_eq ends, if_pos ⟨integer, long⟩]
    exact ⟨_, rfl⟩
  case fullArray rest =>
    exact ⟨.array, rfl⟩
  case fullObject rest =>
    exact ⟨.object, rfl⟩
  case array excess left gap text blank inside induction =>
    rw [value_bracket, skip_gap blank, inside.begins.skip_eq]
    refine Stops.enter ?_
    rw [if_neg (inside.begins.head_ne (by decide))]
    exact Stops.bind (induction (by rw [Part.slack]; omega)) _
  case object excess left gap text blank inside induction =>
    rw [value_brace, skip_gap blank, inside.begins.skip_eq]
    refine Stops.enter ?_
    rw [if_neg (inside.begins.head_ne (by decide))]
    exact Stops.bind (induction (by rw [Part.slack]; omega)) _
  case item excess levels text inside induction =>
    exact Stops.bind (induction (by rw [Part.slack]; omega)) _
  case items excess levels item form comma text item_form comma_mark inside induction =>
    have comma_filled := comma_mark.length_pos
    obtain ⟨next, found, next_eq⟩ := comma_mark.skip_append (by decide) inside.begins
    refine Stops.more_items (item_form.read_yields (by omega) (comma_mark.delimited _)) found ?_
    rw [next_eq]
    exact induction (by rw [Part.slack]; omega)
  case member excess levels name name_form colon text name_quoted colon_mark inside induction =>
    obtain ⟨next, found, next_eq⟩ := colon_mark.skip_append (by decide) inside.begins
    refine Stops.this_member (name_quoted.head?_append _) (name_quoted.quotedString_eq (by omega) _)
      found ?_
    rw [next_eq]
    exact induction (by rw [Part.slack]; omega)
  case members excess levels name value name_form colon form comma text name_quoted colon_mark
      value_form comma_mark inside induction =>
    have comma_filled := comma_mark.length_pos
    obtain ⟨next, found, next_eq⟩ :=
      colon_mark.skip_append (by decide) (value_form.begins.append (comma ++ text))
    obtain ⟨after, comma_found, after_eq⟩ := comma_mark.skip_append (by decide) inside.begins
    have first : Yields (Json.value bound levels (form ++ (comma ++ text)))
        (value, comma ++ text) :=
      value_form.read_yields (by omega) (comma_mark.delimited text)
    rw [← next_eq] at first
    refine Stops.more_members (name_quoted.head?_append _)
      (name_quoted.quotedString_eq (by omega) _) found first comma_found ?_
    rw [after_eq]
    exact induction (by rw [Part.slack]; omega)

/-! ## Only written parts are read -/

section Step

variable (inside : ∀ (part : Part) (levels : Nat) (text : Text),
  Accounted part levels (levels - reportLevels) text (part.read bound levels text))
include inside

end Step

theorem document_eq {gap form : Text} (levels : Nat) (blank : Gap gap) (begins : Begins form) :
    document levels (gap ++ form) =
      value (2 * (gap ++ form).length + 2) (levels + reportLevels) form >>= fun item =>
        if (skip item.2).isEmpty then .ok item.1 else .error (.fault .extra (skip item.2)) := by
  have no_mark : (gap ++ form).head? ≠ some (Char.ofNat 0xFEFF) := by
    cases gap with
    | nil => exact begins.head_ne (by decide)
    | cons c gap =>
        rintro ⟨⟩
        exact absurd (blank _ List.mem_cons_self) (by decide)
  rw [document, if_neg no_mark, skip_gap blank, begins.skip_eq]

theorem ExceedingDocument.stops {excess : Excess} {levels : Nat} {text : Text}
    (exceeding : ExceedingDocument excess (levels + reportLevels) text) :
    Stops (document levels text) := by
  obtain ⟨before, form, before_blank, inside, rfl⟩ := exceeding
  have enough : 2 * form.length + Part.slack .value ≤ 2 * (before ++ form).length + 2 := by
    simp only [List.length_append, Part.slack]
    omega
  have first := inside.read_stops enough
  rw [document_eq levels before_blank inside.begins]
  exact Stops.bind first _

/-- The levels for the report of a fault are there for arrays, too. -/
example : (parse 0 "[[[]]]".toList).toOption.isSome = true ∧
    (parse 0 "[[[[]]]]".toList).toOption.isSome = false := by
  decide +kernel

end Json
end HttpAuth
