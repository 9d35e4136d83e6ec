import HttpAuth.Proofs.Quoting

/-!
# Where a list is cut

Every text is balanced, so that each quoted string in it is closed, or has one quoted string that is
still open at its end.  A balanced text is cut in exactly one way into balanced pieces without
commas outside quoted strings, and what fills these pieces are its elements.  A comma behind a
balanced text separates its elements from those of whatever follows.
-/

namespace HttpAuth
namespace Challenge

open Text

/-- The text is a sequence of closed quoted strings and of characters that are allowed outside
them. -/
inductive Balanced (allowed : Char → Prop) : Text → Prop where
  /-- Nothing is open in the empty text. -/
  | nil : Balanced allowed []
  /-- A character outside quoted strings. -/
  | plain {c : Char} {rest : Text} (no_quote : c ≠ '"') (fits : allowed c)
      (later : Balanced allowed rest) : Balanced allowed (c :: rest)
  /-- A quoted string. -/
  | string {value body rest : Text} (written : StringBody value body)
      (later : Balanced allowed rest) : Balanced allowed ('"' :: (body ++ '"' :: rest))

/-- Behind an opening quote the text does not come to the closing one. -/
inductive Unfinished : Text → Prop where
  /-- The text ends inside the string. -/
  | body {value body : Text} (written : StringBody value body) : Unfinished body
  /-- The text ends with a backslash that has nothing to protect. -/
  | escape {value body : Text} (written : StringBody value body) : Unfinished (body ++ ['\\'])

/-- A quoted string is open at the end of the text. -/
def LeftOpen (text : Text) : Prop :=
  ∃ front body, Balanced (fun _ => True) front ∧ Unfinished body ∧ text = front ++ '"' :: body

/-- The pieces are those between the commas of the text outside quoted strings. -/
structure IsCut (text : Text) (pieces : List Text) : Prop where
  /-- There is a piece. -/
  ne_nil : pieces ≠ []
  /-- The pieces with commas between them are the text. -/
  joined_eq : joined ',' pieces = text
  /-- Each piece is balanced by itself and has no comma outside quoted strings. -/
  balanced : ∀ piece ∈ pieces, Balanced (· ≠ ',') piece

/-! ## Where a reader stands -/

/-- Where a reader stands after a text. -/
def Mode.after (mode : Mode) (text : Text) : Mode :=
  text.foldl Mode.next mode

theorem Mode.after_cons (mode : Mode) (c : Char) (rest : Text) :
    mode.after (c :: rest) = (mode.next c).after rest := rfl

theorem Mode.after_append (mode : Mode) (front rest : Text) :
    mode.after (front ++ rest) = (mode.after front).after rest :=
  List.foldl_append

/-- A text is cut when a reader ends outside quoted strings. -/
theorem cut_eq_none_iff {mode : Mode} {text : Text} :
    cutElements? mode text = none ↔ mode.after text ≠ .plain := by
  induction text generalizing mode with
  | nil =>
      rw [cutElements?]
      split
      · rename_i outside
        simp [outside, Mode.after]
      · rename_i inside
        simpa [Mode.after] using inside
  | cons c rest induction =>
      rw [cutElements?, Mode.after_cons]
      split
      · rename_i comma
        obtain ⟨rfl, rfl⟩ := comma
        rw [Option.map_eq_none_iff, induction]
        rfl
      · rw [Option.map_eq_none_iff, induction]

theorem elements_eq_error_iff {text : Text} {error : Error} :
    elements text = .error error ↔ cutElements? .plain text = none ∧ error = .unterminated text := by
  rw [elements]
  split
  · rename_i cut
    simp [cut, eq_comm]
  · rename_i pieces cut
    simp [cut]

theorem elements_fails_iff {text : Text} :
    (∃ error, elements text = .error error) ↔ Mode.after .plain text ≠ .plain := by
  simp only [elements_eq_error_iff, cut_eq_none_iff, exists_and_left, exists_eq, and_true]

theorem StringBody.after_append {value body : Text} (written : StringBody value body)
    (rest : Text) : Mode.after .quoted (body ++ rest) = Mode.after .quoted rest := by
  induction written with
  | nil => rfl
  | @plain c _ _ no_quote no_escape _ induction =>
      have stays : Mode.next .quoted c = .quoted := by simp [Mode.next, no_quote, no_escape]
      rw [List.cons_append, Mode.after_cons, stays, induction]
  | pair _ _ induction => exact induction
  | kept _ induction => exact induction

theorem Balanced.after_eq {allowed : Char → Prop} {text : Text}
    (balanced : Balanced allowed text) : Mode.after .plain text = .plain := by
  induction balanced with
  | nil => rfl
  | @plain c _ no_quote _ _ induction =>
      have stays : Mode.next .plain c = .plain := by simp [Mode.next, no_quote]
      rw [Mode.after_cons, stays, induction]
  | string written _ induction => exact (written.after_append _).trans induction

theorem Unfinished.after_ne {text : Text} (unfinished : Unfinished text) :
    Mode.after .quoted text ≠ .plain := by
  cases unfinished with
  | body written =>
      have stays := written.after_append []
      rw [List.append_nil] at stays
      rw [stays]
      nofun
  | escape written =>
      rw [written.after_append]
      nofun

theorem LeftOpen.after_ne {text : Text} (open_end : LeftOpen text) :
    Mode.after .plain text ≠ .plain := by
  obtain ⟨front, body, balanced, unfinished, rfl⟩ := open_end
  rw [Mode.after_append, balanced.after_eq]
  exact unfinished.after_ne

/-! ## Closed and open strings -/

/-- A backslash and any character are a pair. -/
theorem StringBody.exists_pair {value body : Text} (written : StringBody value body) (c : Char) :
    ∃ longer, StringBody longer ('\\' :: c :: body) := by
  by_cases line_feed : c = '\n'
  · rw [line_feed]
    exact ⟨_, .kept written⟩
  · exact ⟨_, .pair line_feed written⟩

/-- Behind an opening quote a text comes to the closing one, or ends before it. -/
def Runs (text : Text) : Prop :=
  (∃ value body rest, StringBody value body ∧ text = body ++ '"' :: rest) ∨ Unfinished text

theorem Runs.plain {c : Char} {rest : Text} (no_quote : c ≠ '"') (no_escape : c ≠ '\\')
    (runs : Runs rest) : Runs (c :: rest) := by
  rcases runs with ⟨value, body, tail, written, rfl⟩ | unfinished
  · exact .inl ⟨_, c :: body, tail, .plain no_quote no_escape written, rfl⟩
  · cases unfinished with
    | body written => exact .inr (.body (.plain no_quote no_escape written))
    | escape written => exact .inr (.escape (.plain no_quote no_escape written))

theorem Runs.pair {rest : Text} (c : Char) (runs : Runs rest) : Runs ('\\' :: c :: rest) := by
  rcases runs with ⟨value, body, tail, written, rfl⟩ | unfinished
  · obtain ⟨longer, pair⟩ := written.exists_pair c
    exact .inl ⟨longer, _, tail, pair, rfl⟩
  · cases unfinished with
    | body written =>
        obtain ⟨longer, pair⟩ := written.exists_pair c
        exact .inr (.body pair)
    | escape written =>
        obtain ⟨longer, pair⟩ := written.exists_pair c
        exact .inr (.escape pair)

theorem runs (text : Text) : Runs text := by
  -- A pair takes two characters, so the claim is carried along for the text without its first one.
  have both : Runs text ∧ Runs text.tail := by
    induction text with
    | nil => exact ⟨.inr (.body .nil), .inr (.body .nil)⟩
    | cons c rest induction =>
        obtain ⟨rest_runs, tail_runs⟩ := induction
        refine ⟨?_, rest_runs⟩
        by_cases quote : c = '"'
        · rw [quote]
          exact .inl ⟨[], [], rest, .nil, rfl⟩
        · by_cases escape : c = '\\'
          · rw [escape]
            cases rest with
            | nil => exact .inr (.escape .nil)
            | cons d tail => exact tail_runs.pair d
          · exact rest_runs.plain quote escape
  exact both.1

theorem LeftOpen.plain {c : Char} {rest : Text} (no_quote : c ≠ '"') (open_end : LeftOpen rest) :
    LeftOpen (c :: rest) := by
  obtain ⟨front, body, balanced, unfinished, rfl⟩ := open_end
  exact ⟨c :: front, body, .plain no_quote trivial balanced, unfinished, rfl⟩

theorem LeftOpen.string {value body rest : Text} (written : StringBody value body)
    (open_end : LeftOpen rest) : LeftOpen ('"' :: (body ++ '"' :: rest)) := by
  obtain ⟨front, last, balanced, unfinished, rfl⟩ := open_end
  exact ⟨'"' :: (body ++ '"' :: front), last, .string written balanced, unfinished, by simp⟩

/-- All quoted strings of a text are closed, or one is open at its end. -/
theorem balanced_or_leftOpen (text : Text) : Balanced (fun _ => True) text ∨ LeftOpen text := by
  induction length_eq : text.length using Nat.strongRecOn generalizing text with
  | ind length induction =>
      cases text with
      | nil => exact .inl .nil
      | cons c rest =>
          rw [List.length_cons] at length_eq
          by_cases quote : c = '"'
          · subst quote
            rcases runs rest with ⟨value, body, tail, written, rfl⟩ | unfinished
            · rw [List.length_append, List.length_cons] at length_eq
              rcases induction tail.length (by omega) tail rfl with balanced | open_end
              · exact .inl (.string written balanced)
              · exact .inr (open_end.string written)
            · exact .inr ⟨[], rest, .nil, unfinished, rfl⟩
          · rcases induction rest.length (by omega) rest rfl with balanced | open_end
            · exact .inl (.plain quote trivial balanced)
            · exact .inr (open_end.plain quote)

theorem leftOpen_iff {text : Text} : LeftOpen text ↔ Mode.after .plain text ≠ .plain := by
  refine ⟨LeftOpen.after_ne, fun ends_inside => ?_⟩
  exact (balanced_or_leftOpen text).resolve_left fun balanced => ends_inside balanced.after_eq

theorem balanced_iff {text : Text} :
    Balanced (fun _ => True) text ↔ Mode.after .plain text = .plain := by
  refine ⟨Balanced.after_eq, fun ends_outside => ?_⟩
  exact (balanced_or_leftOpen text).resolve_right fun open_end => open_end.after_ne ends_outside

/-! ## Pieces -/

theorem Balanced.whole {piece : Text} (balanced : Balanced (· ≠ ',') piece) :
    Whole .plain piece := by
  induction balanced with
  | nil => rfl
  | @plain c _ no_quote no_comma _ induction =>
      have stays : Mode.next .plain c = .plain := by simp [Mode.next, no_quote]
      refine ⟨fun comma => no_comma comma.2, ?_⟩
      rw [stays]
      exact induction
  | string written _ induction => exact ⟨by simp, written.whole induction⟩

theorem Whole.balanced {piece : Text} (whole : Whole .plain piece) :
    Balanced (· ≠ ',') piece := by
  induction length_eq : piece.length using Nat.strongRecOn generalizing piece with
  | ind length induction =>
      cases piece with
      | nil => exact .nil
      | cons c rest =>
          rw [List.length_cons] at length_eq
          obtain ⟨no_comma, later⟩ := whole
          by_cases quote : c = '"'
          · subst quote
            obtain ⟨value, body, tail, rfl, written, tail_whole⟩ :=
              (exists_stringBody_append rest).1 later
            rw [List.length_append, List.length_cons] at length_eq
            exact .string written (induction tail.length (by omega) tail_whole rfl)
          · have stays : Mode.next .plain c = .plain := by simp [Mode.next, quote]
            rw [stays] at later
            exact .plain quote (fun comma => no_comma ⟨rfl, comma⟩)
              (induction rest.length (by omega) later rfl)

/-- The pieces between commas are found, and no others. -/
theorem isCut_iff {text : Text} {pieces : List Text} :
    IsCut text pieces ↔ cutElements? .plain text = some pieces := by
  constructor
  · rintro ⟨ne_nil, rfl, balanced⟩
    exact cut_joined ne_nil fun piece member => (balanced piece member).whole
  · intro cut
    obtain ⟨first, others, rfl, first_whole, others_whole, joined_eq⟩ := whole_of_cut cut
    refine ⟨List.cons_ne_nil first others, joined_eq, fun piece member => ?_⟩
    rcases List.mem_cons.mp member with rfl | later
    · exact first_whole.balanced
    · exact (others_whole piece later).balanced

theorem exists_isCut {text : Text} (closed : ¬LeftOpen text) :
    ∃ pieces, IsCut text pieces ∧ (∀ others, IsCut text others → others = pieces) ∧
      elements text = .ok (filled pieces) := by
  cases cut : cutElements? .plain text with
  | none => exact absurd (leftOpen_iff.mpr (cut_eq_none_iff.mp cut)) closed
  | some pieces =>
      refine ⟨pieces, isCut_iff.mpr cut, fun others other_cut => ?_, ?_⟩
      · rw [isCut_iff, cut] at other_cut
        exact (Option.some.inj other_cut).symm
      · rw [elements_eq_ok_iff, cut, Option.map_some]

/-- What stands behind a balanced text and a comma is split as it is split by itself. -/
theorem elements_append_comma_iff {front rest : Text} {found all : List Text}
    (first : elements front = .ok found) :
    elements (front ++ ',' :: rest) = .ok all ↔
      ∃ later, elements rest = .ok later ∧ all = found ++ later := by
  simp only [elements_eq_ok_iff] at first ⊢
  obtain ⟨pieces, cut, rfl⟩ := Option.map_eq_some_iff.mp first
  rw [cut_append_comma cut]
  cases cutElements? .plain rest with
  | none => simp
  | some others => simp [filled_append, eq_comm]

theorem elements_append_comma_fails_iff {front : Text} (rest : Text)
    (balanced : Balanced (fun _ => True) front) :
    (∃ error, elements (front ++ ',' :: rest) = .error error) ↔
      ∃ error, elements rest = .error error := by
  rw [elements_fails_iff, elements_fails_iff, Mode.after_append, balanced.after_eq]
  rfl

/-- The elements of a text are found unless a quoted string is open at its end, which is told with
the whole text.  They are what fills the pieces between its commas outside quoted strings, and there
is one way to cut it into such pieces.  The elements behind a balanced text and a comma are found
when they are found without it, and follow those of the balanced text. -/
theorem elements_split_at_commas (text : Text) :
    ((∃ error, elements text = .error error) ↔ LeftOpen text) ∧
    (∀ error, elements text = .error error → error = .unterminated text) ∧
    (LeftOpen text ↔ ¬Balanced (fun _ => True) text) ∧
    (¬LeftOpen text → ∃ pieces, IsCut text pieces ∧
      (∀ others, IsCut text others → others = pieces) ∧ elements text = .ok (filled pieces)) ∧
    (Balanced (fun _ => True) text → ∃ found, elements text = .ok found ∧ ∀ rest,
      (∀ all, elements (text ++ ',' :: rest) = .ok all ↔
        ∃ later, elements rest = .ok later ∧ all = found ++ later) ∧
      ((∃ error, elements (text ++ ',' :: rest) = .error error) ↔
        ∃ error, elements rest = .error error)) := by
  refine ⟨?fails, fun error failed => ?wording, ?open_end, exists_isCut, fun balanced => ?comma⟩
  case fails => rw [elements_fails_iff, leftOpen_iff]
  case wording => exact (elements_eq_error_iff.mp failed).2
  case open_end => rw [leftOpen_iff, balanced_iff]
  case comma =>
    have closed : ¬LeftOpen text := fun open_end => open_end.after_ne balanced.after_eq
    obtain ⟨pieces, -, -, split⟩ := exists_isCut closed
    exact ⟨filled pieces, split, fun rest =>
      ⟨fun all => elements_append_comma_iff split, elements_append_comma_fails_iff rest balanced⟩⟩

/-- A comma and a quote inside a quoted string do not end an element, and a string whose closing
quote is protected by a backslash stays open. -/
theorem elements_split_at_quoted_comma :
    let text : Text := "a=\"x,\\\"y\" , ,b".toList
    let cut_short : Text := "a=\"x\\\"".toList
    Balanced (fun _ => True) text ∧ ¬LeftOpen text ∧
      (∃ pieces, IsCut text pieces ∧ elements text = .ok (filled pieces)) ∧
      (elements (text ++ ',' :: "c".toList) =
        .ok ["a=\"x,\\\"y\"".toList, ['b'], ['c']]) ∧
      LeftOpen cut_short ∧ elements cut_short = .error (.unterminated cut_short) := by
  intro text cut_short
  obtain ⟨-, -, open_end, pieces, commas⟩ := elements_split_at_commas text
  obtain ⟨fails, wording, -⟩ := elements_split_at_commas cut_short
  have balanced : Balanced (fun _ => True) text := balanced_iff.mpr (by decide)
  have closed : ¬LeftOpen text := fun left_open => open_end.mp left_open balanced
  obtain ⟨cut, is_cut, -, filled_eq⟩ := pieces closed
  obtain ⟨found, found_eq, behind⟩ := commas balanced
  have left_open : LeftOpen cut_short := leftOpen_iff.mpr (by decide)
  obtain ⟨error, failed⟩ := fails.mpr left_open
  obtain rfl : found = ["a=\"x,\\\"y\"".toList, ['b']] :=
    Except.ok.inj (found_eq.symm.trans rfl)
  refine ⟨balanced, closed, ⟨cut, is_cut, filled_eq⟩, ?_, left_open, ?_⟩
  · exact ((behind "c".toList).1 _).mpr ⟨[['c']], rfl, rfl⟩
  · rw [failed, wording error failed]

end Challenge
end HttpAuth
