import HttpAuth.Text.Blank

/-!
# Blanks around a text

Trimming ignores blanks put around a text and leaves a text alone that has none at its ends.  The
first word of a text ends where blanks follow it.
-/

namespace HttpAuth
namespace Text

/-- Every character is a blank. -/
def Blank (text : Text) : Prop :=
  ∀ c ∈ text, isBlank c = true

/-- Neither end of the text is a blank. -/
def Tight (text : Text) : Prop :=
  (∀ c, text.head? = some c → isBlank c = false) ∧
    ∀ c, text.getLast? = some c → isBlank c = false

/-- The text is not empty and has no blank. -/
def Word (text : Text) : Prop :=
  text ≠ [] ∧ ∀ c ∈ text, isBlank c = false

theorem Word.exists_cons {word : Text} (valid : Word word) :
    ∃ first others, word = first :: others ∧ isBlank first = false := by
  obtain ⟨first, others, rfl⟩ := List.exists_cons_of_ne_nil valid.1
  exact ⟨first, others, rfl, valid.2 first List.mem_cons_self⟩

theorem Word.tight {word : Text} (valid : Word word) : Tight word :=
  ⟨fun c first => valid.2 c (List.mem_of_head? first),
    fun c last => valid.2 c (List.mem_of_getLast? last)⟩

/-- A text between two words is tight. -/
theorem Word.tight_append {first last : Text} (starts : Word first) (ends : Word last)
    (between : Text) : Tight (first ++ (between ++ last)) := by
  constructor
  · obtain ⟨c, others, rfl, visible⟩ := starts.exists_cons
    rintro d ⟨⟩
    exact visible
  · intro c final
    rw [List.getLast?_append, List.getLast?_append, List.getLast?_eq_some_getLast ends.1] at final
    cases final
    exact ends.2 _ (List.getLast_mem ends.1)

theorem blank_nil : Blank [] := by
  intro c member
  cases member

theorem blank_space : Blank [' '] := by
  intro c member
  cases List.mem_singleton.mp member
  rfl

theorem Blank.append {before after : Text} (first : Blank before) (second : Blank after) :
    Blank (before ++ after) := by
  intro c member
  rcases List.mem_append.mp member with inside | inside
  · exact first c inside
  · exact second c inside

theorem Blank.reverse {blanks : Text} (blank : Blank blanks) : Blank blanks.reverse :=
  fun c member => blank c (List.mem_reverse.mp member)

/-! ## At the start -/

theorem trimLeft_cons {c : Char} (visible : isBlank c = false) (rest : Text) :
    trimLeft (c :: rest) = c :: rest := by
  simp [trimLeft, visible]

theorem trimLeft_append {blanks : Text} (blank : Blank blanks) (text : Text) :
    trimLeft (blanks ++ text) = trimLeft text :=
  List.dropWhile_append_of_pos blank

theorem exists_append_trimLeft (text : Text) :
    ∃ blanks, Blank blanks ∧ text = blanks ++ trimLeft text := by
  refine ⟨text.takeWhile isBlank, ?_, List.takeWhile_append_dropWhile.symm⟩
  exact fun c member => List.all_eq_true.mp List.all_takeWhile c member

/-- What stands behind a character that is no blank stays. -/
theorem trimLeft_append_cons (front : Text) {c : Char} (visible : isBlank c = false)
    (rest : Text) : trimLeft (front ++ c :: rest) = trimLeft front ++ c :: rest := by
  rw [trimLeft, List.dropWhile_append, ← trimLeft]
  split
  · rename_i vanished
    rw [List.isEmpty_iff.mp vanished]
    exact trimLeft_cons visible rest
  · rfl

theorem not_blank_of_head?_trimLeft {text : Text} {c : Char}
    (head : (trimLeft text).head? = some c) : isBlank c = false := by
  have start := List.head?_dropWhile_not isBlank text
  rw [show (text.dropWhile isBlank).head? = some c from head] at start
  exact start

theorem trimLeft_of_head {text : Text} (head : ∀ c, text.head? = some c → isBlank c = false) :
    trimLeft text = text := by
  cases text with
  | nil => rfl
  | cons c rest => exact trimLeft_cons (head c rfl) rest

/-! ## At the end -/

theorem trimRight_eq_reverse (text : Text) : trimRight text = (trimLeft text.reverse).reverse := rfl

theorem trimRight_append {blanks : Text} (blank : Blank blanks) (text : Text) :
    trimRight (text ++ blanks) = trimRight text := by
  rw [trimRight_eq_reverse, List.reverse_append, trimLeft_append blank.reverse,
    trimRight_eq_reverse]

theorem exists_trimRight_append (text : Text) :
    ∃ blanks, Blank blanks ∧ text = trimRight text ++ blanks := by
  obtain ⟨blanks, blank, reverse_eq⟩ := exists_append_trimLeft text.reverse
  refine ⟨blanks.reverse, blank.reverse, ?_⟩
  rw [trimRight_eq_reverse, ← List.reverse_append, ← reverse_eq, List.reverse_reverse]

theorem trimRight_of_last {text : Text}
    (last : ∀ c, text.getLast? = some c → isBlank c = false) : trimRight text = text := by
  rw [trimRight_eq_reverse, trimLeft_of_head (by simpa using last), List.reverse_reverse]

/-- What stands before a character that is no blank stays. -/
theorem trimRight_append_cons (front : Text) {c : Char} (visible : isBlank c = false)
    (rest : Text) : trimRight (front ++ c :: rest) = front ++ c :: trimRight rest := by
  have reversed : (front ++ c :: rest).reverse = rest.reverse ++ c :: front.reverse := by simp
  rw [trimRight_eq_reverse, reversed, trimLeft_append_cons rest.reverse visible,
    trimRight_eq_reverse]
  simp

/-- A text that is not emptied keeps its first character. -/
theorem head?_trimRight {text : Text} {c : Char} (head : (trimRight text).head? = some c) :
    text.head? = some c := by
  obtain ⟨blanks, -, text_eq⟩ := exists_trimRight_append text
  rw [text_eq, List.head?_append, head]
  rfl

/-! ## At both ends -/

theorem trim_of_tight {text : Text} (tight : Tight text) : trim text = text := by
  rw [trim, trimLeft_of_head tight.1, trimRight_of_last tight.2]

theorem exists_trim_append (text : Text) :
    ∃ before after, Blank before ∧ Blank after ∧ text = before ++ (trim text ++ after) := by
  obtain ⟨before, before_blank, text_eq⟩ := exists_append_trimLeft text
  obtain ⟨after, after_blank, left_eq⟩ := exists_trimRight_append (trimLeft text)
  refine ⟨before, after, before_blank, after_blank, ?_⟩
  rw [trim, ← left_eq, ← text_eq]

theorem isInfix_trim (text : Text) : trim text <:+: text := by
  obtain ⟨before, after, -, -, text_eq⟩ := exists_trim_append text
  exact ⟨before, after, by rw [List.append_assoc, ← text_eq]⟩

theorem tight_trim (text : Text) : Tight (trim text) := by
  constructor
  · intro c head
    exact not_blank_of_head?_trimLeft (head?_trimRight head)
  · intro c last
    rw [trim, trimRight_eq_reverse, List.getLast?_reverse] at last
    exact not_blank_of_head?_trimLeft last

theorem blank_of_trim {text : Text} (vanished : trim text = []) : Blank text := by
  obtain ⟨before, after, before_blank, after_blank, text_eq⟩ := exists_trim_append text
  rw [text_eq, vanished]
  exact before_blank.append after_blank

theorem trim_append_left {blanks : Text} (blank : Blank blanks) (text : Text) :
    trim (blanks ++ text) = trim text := by
  rw [trim, trimLeft_append blank, trim]

theorem trim_append_right {blanks : Text} (blank : Blank blanks) (text : Text) :
    trim (text ++ blanks) = trim text := by
  obtain ⟨front, front_blank, text_eq⟩ := exists_append_trimLeft text
  cases left : trimLeft text with
  | nil =>
      rw [left, List.append_nil] at text_eq
      subst text_eq
      rw [trim_append_left front_blank, ← List.append_nil text, trim_append_left front_blank,
        ← List.append_nil blanks, trim_append_left blank]
  | cons c rest =>
      have visible : isBlank c = false := not_blank_of_head?_trimLeft (by rw [left]; rfl)
      rw [text_eq, left, List.append_assoc, trim_append_left front_blank,
        trim_append_left front_blank, List.cons_append]
      simp only [trim, trimLeft_cons visible]
      rw [← List.cons_append, trimRight_append blank]

theorem trim_of_blank {blanks : Text} (blank : Blank blanks) : trim blanks = [] := by
  rw [← List.append_nil blanks, trim_append_left blank]
  rfl

theorem trim_trimRight (text : Text) : trim (trimRight text) = trim text := by
  obtain ⟨blanks, blank, text_eq⟩ := exists_trimRight_append text
  calc
    trim (trimRight text) = trim (trimRight text ++ blanks) := (trim_append_right blank _).symm
    _ = trim text := by rw [← text_eq]

/-! ## The first word -/

/-- A text that is trimmed keeps its first word, and loses the blanks at its end. -/
theorem trim_word_append {blanks word : Text} (blank : Blank blanks) (valid : Word word)
    (rest : Text) : trim (blanks ++ (word ++ rest)) = word ++ trimRight rest := by
  rw [trim_append_left blank]
  obtain ⟨first, others, rfl, visible⟩ := valid.exists_cons
  have ending := List.dropLast_concat_getLast valid.1
  have last_visible := valid.2 _ (List.getLast_mem valid.1)
  rw [trim, List.cons_append, trimLeft_cons visible, ← List.cons_append, ← ending,
    List.append_assoc, List.singleton_append, trimRight_append_cons _ last_visible,
    List.append_assoc, List.singleton_append]

section FirstWord

variable {word rest : Text}

theorem firstWord_append (visible : ∀ c ∈ word, isBlank c = false)
    (ended : ∀ c, rest.head? = some c → isBlank c = true) : firstWord (word ++ rest) = word := by
  rw [firstWord, List.takeWhile_append_of_pos (by simpa using visible)]
  cases rest with
  | nil => simp
  | cons c others => simp [ended c rfl]

theorem afterFirstWord_append (visible : ∀ c ∈ word, isBlank c = false)
    (ended : ∀ c, rest.head? = some c → isBlank c = true) :
    afterFirstWord (word ++ rest) = trimLeft rest := by
  rw [afterFirstWord, List.dropWhile_append_of_pos (by simpa using visible)]
  cases rest with
  | nil => rfl
  | cons c others => simp [ended c rfl]

end FirstWord

theorem isSuffix_afterFirstWord (text : Text) : afterFirstWord text <:+ text :=
  (List.dropWhile_suffix isBlank).trans (List.dropWhile_suffix (!isBlank ·))

/-- The first word of a trimmed text that is not empty. -/
theorem word_firstWord_trim {text : Text} (filled : trim text ≠ []) :
    Word (firstWord (trim text)) := by
  have visible : ∀ c ∈ firstWord (trim text), isBlank c = false := by
    intro c member
    simpa using List.all_eq_true.mp List.all_takeWhile c member
  refine ⟨?_, visible⟩
  obtain ⟨first, others, trim_eq⟩ := List.exists_cons_of_ne_nil filled
  have head : (trimLeft text).head? = some first := head?_trimRight (by rw [← trim, trim_eq]; rfl)
  simp [trim_eq, firstWord, not_blank_of_head?_trimLeft head]

end Text
end HttpAuth
