import HttpAuth.Proofs.Ascii
import HttpAuth.Proofs.Cutting
import HttpAuth.Proofs.Encoding
import HttpAuth.Proofs.Trimming
import HttpAuth.TokenFormat

/-!
# Tokens in forms

A form writes names and values octet by octet: a plain character stands for itself, a plus sign for
a space, and an escape for any octet.  Whatever way each octet is written in, the fields are read
back in order, and the token is the value of the first field with the name.
-/

namespace HttpAuth

namespace Form

open Text

/-! ## Written forms -/

/-- The character stands for itself: it is visible and none of the marks of the encoding. -/
def IsPlain (c : Char) : Prop :=
  IsVisible c ∧ c ∉ "%&+=".toList

instance : DecidablePred IsPlain :=
  fun _ => inferInstanceAs (Decidable (_ ∧ _))

/-- The written forms of octets. -/
inductive Component : Octets → Text → Prop where
  /-- Nothing. -/
  | nil : Component [] []
  /-- A plain character. -/
  | plain {c : Char} {octets : Octets} {text : Text} (plain : IsPlain c)
      (later : Component octets text) : Component (UInt8.ofNat c.toNat :: octets) (c :: text)
  /-- A plus sign for a space. -/
  | space {octets : Octets} {text : Text} (later : Component octets text) :
      Component (0x20 :: octets) ('+' :: text)
  /-- An escape with two digits in either case. -/
  | escape {high low : Char} {h l : Nat} {octets : Octets} {text : Text}
      (high_value : Hex.value? high = some h) (low_value : Hex.value? low = some l)
      (later : Component octets text) :
      Component (UInt8.ofNat (h * 0x10 + l) :: octets) ('%' :: high :: low :: text)

/-- The written forms of fields: each has an equals sign between the name and the value, and
ampersands stand between them. -/
inductive Written : List (Text × Text) → Text → Prop where
  /-- No field. -/
  | nil : Written [] []
  /-- One field. -/
  | single {name value written_name written_value : Text}
      (name_form : Component (Utf8.encode name) written_name)
      (value_form : Component (Utf8.encode value) written_value) :
      Written [(name, value)] (written_name ++ '=' :: written_value)
  /-- A field and more fields. -/
  | cons {name value written_name written_value rest : Text} {fields : List (Text × Text)}
      (name_form : Component (Utf8.encode name) written_name)
      (value_form : Component (Utf8.encode value) written_value) (filled : fields ≠ [])
      (later : Written fields rest) :
      Written ((name, value) :: fields) (written_name ++ '=' :: written_value ++ '&' :: rest)

/-- The usual form of a name or value: only letters, digits and four marks stand for themselves. -/
def encodeComponent (text : Text) : Text :=
  (Percent.encode [' '] text).map fun c => if c = ' ' then '+' else c

/-- The usual form of fields. -/
def encode (fields : List (Text × Text)) : Text :=
  joined '&' (fields.map fun field => encodeComponent field.1 ++ '=' :: encodeComponent field.2)

/-! ## Characters -/

theorem visible_of_mem {octets : Octets} {text : Text} {c : Char} (form : Component octets text)
    (member : c ∈ text) : IsVisible c ∧ c ≠ '&' ∧ c ≠ '=' := by
  have digit {d : Char} {value : Nat} (found : Hex.value? d = some value) :
      IsVisible d ∧ d ≠ '&' ∧ d ≠ '=' := by
    have bounds := (Percent.value?_bounds found).2
    refine ⟨by rw [Text.IsVisible]; omega, ?_, ?_⟩
    · rintro rfl
      cases found
    · rintro rfl
      cases found
  induction form with
  | nil => cases member
  | plain plain _ induction =>
      rcases List.mem_cons.mp member with rfl | later
      · refine ⟨plain.1, ?_, ?_⟩
        · rintro rfl
          exact plain.2 (by decide)
        · rintro rfl
          exact plain.2 (by decide)
      · exact induction later
  | space _ induction =>
      rcases List.mem_cons.mp member with rfl | later
      · decide
      · exact induction later
  | escape high_value low_value _ induction =>
      simp only [List.mem_cons] at member
      rcases member with rfl | rfl | rfl | later
      · decide
      · exact digit high_value
      · exact digit low_value
      · exact induction later

/-! ## Reading -/

/-- The octets are read back from any of their forms. -/
theorem unescape_component {octets : Octets} {text : Text} (form : Component octets text) :
    Percent.unescape (Utf8.encode (text.map fun c => if c = '+' then ' ' else c)) = octets := by
  induction form with
  | nil => rfl
  | @plain c octets text plain _ induction =>
      have ascii : c.toNat < 0x80 := plain.1.2
      have other : ∀ mark ∈ "%&+=".toList, c ≠ mark :=
        fun mark listed same => plain.2 (same ▸ listed)
      have not_percent : UInt8.ofNat c.toNat ≠ 0x25 := by
        intro percent
        have code : c.toNat = 0x25 := by
          rw [← Utf8.toNat_octet (show c.toNat < 0x100 by omega), percent]
          rfl
        exact other '%' (by decide) (Char.toNat_inj.mp code)
      rw [List.map_cons, if_neg (other '+' (by decide)), Utf8.encode, List.flatMap_cons,
        Utf8.encodeChar_ascii ascii, List.singleton_append, Percent.unescape_cons not_percent,
        ← Utf8.encode, induction]
  | space _ induction =>
      rw [List.map_cons, if_pos rfl, Utf8.encode, List.flatMap_cons, ← Utf8.encode,
        Utf8.encodeChar_ascii (by decide), List.singleton_append,
        Percent.unescape_cons (by decide), induction]
      rfl
  | @escape high low h l octets text high_value low_value _ induction =>
      have other {d : Char} {value : Nat} (found : Hex.value? d = some value) : d ≠ '+' := by
        rintro rfl
        cases found
      rw [List.map_cons, List.map_cons, List.map_cons, if_neg (by decide),
        if_neg (other high_value), if_neg (other low_value)]
      change Percent.unescape (Utf8.encode (['%', high, low] ++ _)) = _
      rw [Utf8.encode_append, Percent.unescape_escape high_value low_value, induction]

theorem component_eq {text written : Text} (form : Component (Utf8.encode text) written) :
    component written = text := by
  rw [component, Percent.decode, unescape_component form, Utf8.decodeLenient_encode]

section Field

variable {name value written_name written_value : Text}
variable (name_form : Component (Utf8.encode name) written_name)
variable (value_form : Component (Utf8.encode value) written_value)
include name_form value_form

theorem field_eq : field (written_name ++ '=' :: written_value) = (name, value) := by
  have unmarked : '=' ∉ written_name := fun member => (visible_of_mem name_form member).2.2 rfl
  rw [field, cut_append_mark unmarked]
  simp only [Option.getD_some, component_eq name_form, component_eq value_form]

theorem ampersand_not_mem_field : '&' ∉ written_name ++ '=' :: written_value := by
  refine List.not_mem_append (fun member => (visible_of_mem name_form member).2.1 rfl) ?_
  exact List.not_mem_cons_of_ne_of_not_mem (by decide)
    fun member => (visible_of_mem value_form member).2.1 rfl

theorem visible_of_mem_field {c : Char} (member : c ∈ written_name ++ '=' :: written_value) :
    IsVisible c := by
  rcases List.mem_append.mp member with name | rest
  · exact (visible_of_mem name_form name).1
  · rcases List.mem_cons.mp rest with rfl | value
    · decide
    · exact (visible_of_mem value_form value).1

end Field

/-- The fields are read back from any of their forms. -/
theorem fields_written {pairs : List (Text × Text)} {text : Text} (form : Written pairs text) :
    fields text = pairs := by
  have filled (front rest : Text) : (front ++ '=' :: rest).isEmpty = false := by
    simp
  induction form with
  | nil => rfl
  | single name_form value_form =>
      rw [fields, pieces_of_not_mem (ampersand_not_mem_field name_form value_form)]
      simp only [List.filter_cons, filled, Bool.not_false, if_true, List.filter_nil, List.map_cons,
        field_eq name_form value_form, List.map_nil]
  | @cons name value written_name written_value rest _ name_form value_form _ _ induction =>
      rw [fields] at induction
      rw [fields, pieces_append_mark (ampersand_not_mem_field name_form value_form)]
      simp only [List.filter_cons, filled, Bool.not_false, if_true, List.map_cons,
        field_eq name_form value_form, induction]

theorem visible_of_mem_written {pairs : List (Text × Text)} {text : Text} {c : Char}
    (form : Written pairs text) (member : c ∈ text) : IsVisible c := by
  induction form with
  | nil => cases member
  | single name_form value_form => exact visible_of_mem_field name_form value_form member
  | cons name_form value_form _ _ induction =>
      rcases List.mem_append.mp member with field | rest
      · exact visible_of_mem_field name_form value_form field
      · rcases List.mem_cons.mp rest with rfl | later
        · decide
        · exact induction later

/-! ## The usual form -/

theorem isPlain_of_isUnreserved {c : Char} (unreserved : Percent.isUnreserved c = true) :
    IsPlain c := by
  have marks : ("_.-~".toList.all (decide <| IsPlain ·)) = true := by decide
  simp only [Percent.isUnreserved, Bool.or_eq_true, beq_iff_eq] at unreserved
  rcases unreserved with (((alphanum | rfl) | rfl) | rfl) | rfl
  case inl.inl.inl.inl =>
    have letters : ("%&+=".toList.all (!·.isAlphanum)) = true := by decide
    refine ⟨isVisible_of_isAlphanum alphanum, fun marked => ?_⟩
    simpa [alphanum] using List.all_eq_true.mp letters c marked
  all_goals decide

theorem component_encodeComponent (text : Text) :
    Component (Utf8.encode text) (encodeComponent text) := by
  rw [encodeComponent, Percent.encode]
  induction Utf8.encode text with
  | nil => exact .nil
  | cons b octets induction =>
      rw [List.flatMap_cons, List.map_append]
      rcases Percent.encodeOctet_cases [' '] b with ⟨c, ⟨-, kept⟩, rfl, octet_eq⟩ | octet_eq
      · rw [octet_eq]
        rcases kept with unreserved | space
        · have plain := isPlain_of_isUnreserved unreserved
          have other : c ≠ ' ' := by
            rintro rfl
            exact absurd plain.1 (by decide)
          rw [List.map_singleton, if_neg other]
          exact .plain plain induction
        · obtain rfl := List.mem_singleton.mp space
          exact .space induction
      · have octet := b.toNat_lt
        have high := Percent.value?_capital (b.toNat / 0x10) (by omega)
        have low := Percent.value?_capital (b.toNat % 0x10) (by omega)
        have other : ∀ value < 0x10, Hex.capital value ≠ ' ' := by decide
        have whole : UInt8.ofNat (b.toNat / 0x10 * 0x10 + b.toNat % 0x10) = b := by
          rw [Nat.div_add_mod', UInt8.ofNat_toNat]
        have escape := Component.escape high low induction
        rw [whole] at escape
        rw [octet_eq, List.map_cons, List.map_cons, List.map_singleton, if_neg (by decide),
          if_neg (other _ (by omega)), if_neg (other _ (by omega))]
        exact escape

theorem written_encode (pairs : List (Text × Text)) : Written pairs (encode pairs) := by
  rw [encode]
  induction pairs with
  | nil => exact .nil
  | cons pair pairs induction =>
      have name := component_encodeComponent pair.1
      have value := component_encodeComponent pair.2
      cases pairs with
      | nil => exact .single name value
      | cons next others => exact .cons name value (List.cons_ne_nil next others) induction

end Form

/-! ## The token -/

namespace TokenFormat

open Text

/-- The token in a form with blanks around it is what a look-up finds in its fields. -/
theorem token_of_written {pairs : List (Text × Text)} {text before after : Text}
    (written : Form.Written pairs text) (before_blank : Blank before) (after_blank : Blank after)
    (field : Text) :
    (form field).token (Utf8.encode (before ++ (text ++ after))) =
      (pairs.lookup field).elim (.error (.missing field)) .ok := by
  have not_blank {c : Char} (member : c ∈ text) : isBlank c = false :=
    forall_ascii (fun c => IsVisible c → isBlank c = false) (by decide)
      (Form.visible_of_mem_written written member).2 (Form.visible_of_mem_written written member)
  have tight : Tight text :=
    ⟨fun c head => not_blank (List.mem_of_head? head),
      fun c last => not_blank (List.mem_of_getLast? last)⟩
  have inside : trim (before ++ (text ++ after)) = text := by
    rw [trim_append_left before_blank, trim_append_right after_blank, trim_of_tight tight]
  rw [token, Utf8.decode_encode]
  simp only [inside, Form.value?, Form.fields_written written]
  cases pairs.lookup field <;> rfl

/-- The token in a form, whatever way it is written in and whatever blanks stand around it, is the
value of the first field with the name, and there is none exactly when no field has the name.  The
usual form is one of these ways.  Any octets at all give a text or an error of the format. -/
theorem form_token_read_back (field : Text) :
    (∀ pairs text before after, Form.Written pairs text → Blank before → Blank after →
      let body := Utf8.encode (before ++ (text ++ after))
      (∀ value, (form field).token body = .ok value ↔
        ∃ front rest, pairs = front ++ (field, value) :: rest ∧
          ∀ pair ∈ front, pair.1 ≠ field) ∧
      ((∃ error, (form field).token body = .error error) ↔ ∀ pair ∈ pairs, pair.1 ≠ field)) ∧
    (∀ pairs, Form.Written pairs (Form.encode pairs)) ∧
    ∀ body, (∃ value, (form field).token body = .ok value) ∨
      ∃ error, (form field).token body = .error error ∧ error.isFormat = true := by
  refine ⟨fun pairs text before after written before_blank after_blank => ?read,
    Form.written_encode, fun body => ?total⟩
  case read =>
    have other {name : Text} : name ≠ field ↔ (field != name) = true :=
      ne_comm.trans bne_iff_ne.symm
    have first (value : Text) : pairs.lookup field = some value ↔
        ∃ front rest, pairs = front ++ (field, value) :: rest ∧
          ∀ pair ∈ front, pair.1 ≠ field := by
      simp only [List.lookup_eq_some_iff, other]
    have unnamed : pairs.lookup field = none ↔ ∀ pair ∈ pairs, pair.1 ≠ field := by
      simp only [List.lookup_eq_none_iff, other]
    intro body
    rw [token_of_written written before_blank after_blank, ← unnamed]
    refine ⟨fun value => (Iff.trans ?_ (first value)), ?_⟩
    all_goals cases pairs.lookup field <;> simp
  case total =>
    rw [token]
    cases Utf8.decode body with
    | error error => exact .inr ⟨.formEncoding error, rfl, rfl⟩
    | ok text =>
        cases found : Form.value? field (trim text) with
        | some value => exact .inl ⟨value, by simp only [found]⟩
        | none => exact .inr ⟨.missing field, by simp only [found], rfl⟩

/-- The second of two fields with the name does not count, and neither does a field whose name only
looks like it. -/
example :
    ((form "a b".toList).token (Utf8.encode "\n%61b=0&a+b=%C3%a9%26+%&a%20b=2 ".toList)).toOption =
      some "é& %".toList := by
  decide +kernel

end TokenFormat
end HttpAuth
