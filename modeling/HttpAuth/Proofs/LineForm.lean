import HttpAuth.Proofs.Line

/-!
# The form of request lines

A text is read as a request line exactly when it is, without the blanks around it, three words with
single spaces between them, the third of which names the protocol in some letter case.  What is read
is written and read again without change, and so is every line that is built from words.
-/

namespace HttpAuth

namespace Text

/-! ## The name of the protocol in capitals -/

theorem toUpper_of_outside {c : Char} (outside : 0x80 ≤ c.toNat) : c.toUpper = c := by
  refine dif_neg fun small => ?_
  have upper : c.toNat ≤ 122 := UInt32.le_iff_toNat_le.mp small.2
  omega

theorem upperRuns_avoid_name : ∀ run ∈ upperRuns,
    run.last < 0x80 ∨ ("HTP/".toList.all fun c => run.misses c.toNat) = true := by
  decide +kernel

/-- An expansion that starts with a letter of the name goes on outside ASCII. -/
theorem upperExpansions_avoid_name :
    (upperExpansions.all fun expansion =>
      (expansion.2.map Char.ofNat).head?.any fun first =>
        (expansion.2.map Char.ofNat)[1]?.any fun second =>
          decide (first ≠ '/' ∧ (first ∈ "HTP".toList → 0x80 ≤ second.toNat))) = true := by
  decide +kernel

theorem name_ascii : ∀ d ∈ "HTP/".toList, d.toNat < 0x80 :=
  forall_listed (·.toNat < 0x80) (by decide)

/-- The image of a run is no character of the name. -/
theorem not_mem_name_of_image {code image : Nat} (outside : 0x80 ≤ code)
    (mapped : upperRuns.findSome? (·.imageOf? code) = some image) :
    Char.ofNat image ∉ "HTP/".toList := by
  intro listed
  by_cases valid : image.isValidChar
  · obtain ⟨run, member, image_eq⟩ := List.exists_of_findSome?_eq_some mapped
    obtain ⟨lower, upper⟩ := CaseRun.image_bounds image_eq
    obtain ⟨-, last, -⟩ := CaseRun.imageOf?_eq_some image_eq
    rcases upperRuns_avoid_name run member with early | avoids
    · omega
    · have missed := List.all_eq_true.mp avoids _ listed
      simp only [CaseRun.misses, toNat_ofNat valid, Bool.or_eq_true, Nat.blt_eq] at missed
      omega
  · have zero : Char.ofNat image = Char.ofNat 0 := by
      rw [Char.ofNat, dif_neg valid]
      rfl
    rw [zero] at listed
    exact absurd listed (by decide)

/-- The upper case of a character outside ASCII starts with no slash, and goes on outside ASCII
behind a letter of the name. -/
theorem upperChar_outside_start {c : Char} (outside : 0x80 ≤ c.toNat) :
    ∃ first tail, upperChar c = first :: tail ∧ first ≠ '/' ∧
      (first ∈ "HTP".toList → ∃ second others, tail = second :: others ∧ 0x80 ≤ second.toNat) := by
  rcases upperChar_outside outside with
    ⟨expansion, listed, upper_eq⟩ | ⟨image, mapped, upper_eq⟩ | same
  · have avoids := List.all_eq_true.mp upperExpansions_avoid_name expansion listed
    simp only [Option.any_eq_true, decide_eq_true_iff] at avoids
    obtain ⟨first, head, second, next, not_slash, goes_on⟩ := avoids
    match image_eq : expansion.2.map Char.ofNat, head, next with
    | _ :: _ :: others, rfl, rfl =>
        exact ⟨first, second :: others, upper_eq.trans image_eq, not_slash,
          fun letter => ⟨second, others, rfl, goes_on letter⟩⟩
  · have other := not_mem_name_of_image outside mapped
    refine ⟨Char.ofNat image, [], upper_eq, ?_, fun letter => ?_⟩
    · rintro slash
      exact other (slash ▸ List.mem_append_right "HTP".toList List.mem_cons_self)
    · exact absurd (List.mem_append_left ['/'] letter) other
  · have other : c ∉ "HTP/".toList := fun listed => absurd (name_ascii c listed) (by omega)
    refine ⟨c, [], same, ?_, fun letter => ?_⟩
    · rintro rfl
      exact absurd outside (by decide)
    · exact absurd (List.mem_append_left ['/'] letter) other

theorem not_prefix_upperChar_outside {c : Char} (outside : 0x80 ≤ c.toNat) {letters : Text}
    (plain : ∀ d ∈ letters, d ∈ "HTP".toList) (rest : Text) :
    ¬letters ++ ['/'] <+: upperChar c ++ rest := by
  obtain ⟨first, tail, upper_eq, not_slash, goes_on⟩ := upperChar_outside_start outside
  rw [upper_eq]
  intro start
  cases letters with
  | nil => exact not_slash (List.cons_prefix_cons.mp start).1.symm
  | cons letter letters =>
      obtain ⟨rfl, later⟩ := List.cons_prefix_cons.mp start
      obtain ⟨second, others, rfl, large⟩ := goes_on (plain _ List.mem_cons_self)
      have listed : second ∈ "HTP/".toList := by
        cases letters with
        | nil =>
            rw [← (List.cons_prefix_cons.mp later).1]
            decide
        | cons next letters =>
            obtain ⟨rfl, -⟩ := List.cons_prefix_cons.mp later
            have letter := plain next (List.mem_cons_of_mem _ List.mem_cons_self)
            exact List.mem_append_left ['/'] letter
      exact absurd (name_ascii second listed) (Nat.not_lt.mpr large)

/-- The upper case of a text starts with letters of the name and a slash exactly when the text does
in some case of ASCII letters. -/
theorem prefix_upper_iff {letters : Text} (plain : ∀ d ∈ letters, d ∈ "HTP".toList) (text : Text) :
    letters ++ ['/'] <+: upper text ↔
      (text.take (letters ++ ['/']).length).map Char.toUpper = letters ++ ['/'] := by
  have single {c : Char} : c.toNat < 0x80 → upperChar c = [c.toUpper] :=
    forall_ascii (fun c => upperChar c = [c.toUpper]) (by decide)
  induction letters generalizing text with
  | nil =>
      cases text with
      | nil => simp [upper]
      | cons c rest =>
          rw [upper, List.flatMap_cons]
          by_cases small : c.toNat < 0x80
          · rw [single small, List.nil_append, List.singleton_append, List.cons_prefix_cons]
            simp [eq_comm]
          · have outside := Nat.le_of_not_lt small
            refine iff_of_false (not_prefix_upperChar_outside outside plain _) fun start => ?_
            have slash : c.toUpper = '/' := (List.cons.inj start).1
            rw [toUpper_of_outside outside] at slash
            exact small (name_ascii c (by rw [slash]; decide))
  | cons letter letters induction =>
      have later_plain : ∀ d ∈ letters, d ∈ "HTP".toList :=
        fun d member => plain d (List.mem_cons_of_mem letter member)
      cases text with
      | nil => simp [upper]
      | cons c rest =>
          rw [upper, List.flatMap_cons]
          by_cases small : c.toNat < 0x80
          · have later : letters ++ ['/'] <+: upper rest ↔
                (rest.take (letters ++ ['/']).length).map Char.toUpper = letters ++ ['/'] :=
              induction later_plain rest
            rw [single small, ← upper, List.cons_append, List.singleton_append,
              List.cons_prefix_cons, later, List.length_cons, List.take_succ_cons, List.map_cons,
              List.cons.injEq, eq_comm (a := letter)]
          · have outside := Nat.le_of_not_lt small
            refine iff_of_false (not_prefix_upperChar_outside outside plain _) fun start => ?_
            have same : c.toUpper = letter := (List.cons.inj start).1
            rw [toUpper_of_outside outside] at same
            have listed := plain letter List.mem_cons_self
            exact small (name_ascii c (by rw [same]; exact List.mem_append_left ['/'] listed))

end Text

namespace RequestLine

open Text

/-- The text starts with the name of the protocol and a slash, in any case of their letters. -/
def NamesProtocol (version : Text) : Prop :=
  (version.take 5).map Char.toUpper = "HTTP/".toList

theorem namesProtocol_iff {version : Text} :
    NamesProtocol version ↔ "HTTP/".toList.isPrefixOf (upper version) = true := by
  have letters : ∀ d ∈ "HTTP".toList, d ∈ "HTP".toList :=
    forall_listed (· ∈ "HTP".toList) (by decide)
  rw [List.isPrefixOf_iff_prefix]
  exact (prefix_upper_iff letters version).symm

/-- Three fields that make a line: no field is empty or has a space, and the third is a version of
the protocol. -/
structure Fields (method target version : Text) : Prop where
  /-- No field is empty. -/
  filled : method ≠ [] ∧ target ≠ [] ∧ version ≠ []
  /-- No field has a space. -/
  words : ' ' ∉ method ∧ ' ' ∉ target ∧ ' ' ∉ version
  /-- The third field names the protocol. -/
  protocol : NamesProtocol version

/-- A line is well formed when its fields make a line with a method in capitals and no blank at an
end. -/
theorem wellFormed_iff {line : RequestLine} :
    WellFormed line ↔ Fields line.method line.target line.version ∧
      upper line.method = line.method ∧
      (∀ c, line.method.head? = some c → isBlank c = false) ∧
      ∀ c, line.version.getLast? = some c → isBlank c = false := by
  constructor
  · intro formed
    exact ⟨⟨formed.filled, formed.words, namesProtocol_iff.mpr formed.http⟩, formed.capitals,
      formed.starts, formed.ends⟩
  · rintro ⟨fields, capitals, starts, ends⟩
    exact ⟨fields.filled, fields.words, starts, ends, capitals,
      namesProtocol_iff.mp fields.protocol⟩

/-- A line that is refused is quoted in the error. -/
theorem error_of_parse {given : Option Text} {error : Error}
    (refused : parse given = .error error) :
    error = .malformed given ∨ error = .version given := by
  rw [parse] at refused
  split at refused
  · split at refused
    · exact .inl (Except.error.inj refused).symm
    · split at refused
      · cases refused
      · exact .inr (Except.error.inj refused).symm
  · exact .inl (Except.error.inj refused).symm

/-- A line that is built from words is well formed. -/
theorem wellFormed_build {method path : Text} {query : Option Text} (filled : method ≠ [])
    (starts : ∀ c, method.head? = some c → isBlank c = false)
    (words : ' ' ∉ method ∧ ' ' ∉ path ∧ ' ' ∉ query.getD []) :
    WellFormed (build method path query) where
  filled := by
    obtain ⟨first, others, rfl⟩ := List.exists_cons_of_ne_nil filled
    refine ⟨upper_cons_ne_nil first others, List.append_ne_nil_of_left_ne_nil ?_ _, nofun⟩
    split
    · exact List.cons_ne_nil _ _
    · rename_i filled
      exact fun empty => filled (List.isEmpty_iff.mpr empty)
  words := by
    refine ⟨fun space => words.1 (mem_of_mem_upper rfl space), ?_,
      by change ' ' ∉ "HTTP/1.1".toList; decide⟩
    refine List.not_mem_append ?_ ?_
    · split
      · decide
      · exact words.2.1
    · split
      · exact List.not_mem_nil
      · exact List.not_mem_cons_of_ne_of_not_mem (by decide) words.2.2
  starts := fun _ head => not_blank_of_head?_upper starts head
  ends := by
    rintro c ⟨⟩
    rfl
  capitals := upper_upper method
  http := rfl

/-- The parts of a target that is built are those that it is built from. -/
theorem parts_build (method : Text) {path : Text} (query : Option Text) (unmarked : '?' ∉ path) :
    (build method path query).path = (if path = [] then ['/'] else path) ∧
      (build method path query).query? = query.filter (· ≠ []) := by
  have front : '?' ∉ if path = [] then ['/'] else path := by
    split
    · decide
    · exact unmarked
  rw [RequestLine.path, query?, build]
  simp only [List.isEmpty_iff]
  match query with
  | none | some [] =>
      simp only [Option.getD_none, Option.getD_some, if_true, List.append_nil, cut_of_not_mem front]
      exact ⟨trivial, rfl⟩
  | some (c :: rest) =>
      simp only [Option.getD_some, List.cons_ne_nil, if_false, cut_append_mark front]
      exact ⟨trivial, rfl⟩

/-- A text is read as a line exactly when, without the blanks at its ends, it is three fields with
single spaces between them; the line has these fields, with the method in capitals.  Any other text
and a missing one are refused, and quoted in the error.  What was read is written and read again
unchanged, and so is a line exactly when its fields make a line with a method in capitals and no
blank at an end.  A target is its path and, if it has one, its query behind a question mark.  A line
that is built from words is read back with the method in capitals, the path or a slash for an empty
one, and the query unless it is empty. -/
theorem parse_inverts_text :
    (∀ given line, parse given = .ok line ↔
      ∃ text method, given = some text ∧
        trim text = method ++ ' ' :: line.target ++ ' ' :: line.version ∧
        Fields method line.target line.version ∧ line.method = upper method) ∧
    (∀ given, (∃ line, parse given = .ok line) ∨ parse given = .error (.malformed given) ∨
      parse given = .error (.version given)) ∧
    parse none = .error (.malformed none) ∧
    (∀ given line, parse given = .ok line → parse (some line.text) = .ok line) ∧
    (∀ line : RequestLine, parse (some line.text) = .ok line ↔
      Fields line.method line.target line.version ∧ upper line.method = line.method ∧
        (∀ c, line.method.head? = some c → isBlank c = false) ∧
        ∀ c, line.version.getLast? = some c → isBlank c = false) ∧
    (∀ line : RequestLine,
      line.path ++ (line.query?.map ('?' :: ·)).getD [] = line.target) ∧
    ∀ method path query, method ≠ [] → (∀ c, method.head? = some c → isBlank c = false) →
      ' ' ∉ method ∧ ' ' ∉ path ∧ ' ' ∉ Option.getD query [] → '?' ∉ path →
      ∃ line, parse (some (build method path query).text) = .ok line ∧
        line.method = upper method ∧ line.path = (if path = [] then ['/'] else path) ∧
        line.query? = query.filter (· ≠ []) := by
  refine ⟨fun given line => ⟨?fields, ?reads⟩, ?refused, rfl, ?again, fun line => ⟨?formed, ?back⟩,
    fun line => cut_append '?' line.target, ?built⟩
  case fields =>
    intro read
    obtain ⟨text, method, given_eq, whole, method_eq, filled, words, http⟩ := fields_of_parse read
    exact ⟨text, method, given_eq, whole, ⟨filled, words, namesProtocol_iff.mpr http⟩, method_eq⟩
  case reads =>
    rintro ⟨text, method, rfl, whole, fields, method_eq⟩
    have http := namesProtocol_iff.mp fields.protocol
    rw [parse_of_fields fields.filled fields.words http whole, ← method_eq]
  case refused =>
    intro given
    cases read : parse given with
    | ok line => exact .inl ⟨line, rfl⟩
    | error error =>
        rcases error_of_parse read with rfl | rfl
        · exact .inr (.inl rfl)
        · exact .inr (.inr rfl)
  case again => exact fun given line read => (wellFormed_of_parse read).parse_text
  case formed => exact fun read => wellFormed_iff.mp (wellFormed_of_parse read)
  case back => exact fun formed => (wellFormed_iff.mpr formed).parse_text
  case built =>
    intro method path query filled starts words unmarked
    exact ⟨build method path query, (wellFormed_build filled starts words).parse_text, rfl,
      parts_build method query unmarked⟩

/-- Blanks other than spaces may stand inside a field, but no second space between two. -/
example :
    parse (some "\tput a\tb?? hTtP/x \n".toList) =
        .ok ⟨"PUT".toList, "a\tb??".toList, "hTtP/x".toList⟩ ∧
      parse (some "GET  / HTTP/1.1".toList) = .error (.malformed (some "GET  / HTTP/1.1".toList)) ∧
      parse (some "GET / ẖttp/1.1".toList) = .error (.version (some "GET / ẖttp/1.1".toList)) :=
  ⟨by rfl, by rfl, by rfl⟩

end RequestLine
end HttpAuth
