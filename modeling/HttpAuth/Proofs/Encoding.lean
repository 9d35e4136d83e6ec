import HttpAuth.Percent

/-!
# Encodings that are read back

A text is read back from its UTF-8 octets, and from its percent-encoding as long as the percent sign
does not count as safe.  An encoded text consists of characters that stand for themselves and of
escapes with two capital digits.
-/

namespace HttpAuth

namespace Utf8

theorem toNat_octet {n : Nat} (small : n < 0x100) : (UInt8.ofNat n).toNat = n := by
  rw [UInt8.toNat_ofNat', Nat.mod_eq_of_lt small]

theorem encodeChar_ascii {c : Char} (ascii : c.toNat < 0x80) :
    encodeChar c = [UInt8.ofNat c.toNat] := by
  rw [encodeChar, if_pos ascii]

/-! ## One character -/

/-- An octet that ends a sequence. -/
theorem marksFrom_last {first : UInt8} {position taken low high bits digit : Nat}
    (small : digit < 0x40) (inside : low ≤ 0x80 + digit ∧ 0x80 + digit ≤ high) (rest : Octets) :
    marksFrom position (some ⟨first, taken, 0, low, high, bits⟩)
        (UInt8.ofNat (0x80 + digit) :: rest) =
      .char (Char.ofNat (bits * 0x40 + digit)) :: marksFrom (position + 1) none rest := by
  have octet := toNat_octet (show 0x80 + digit < 0x100 by omega)
  simp only [marksFrom, step, octet, if_pos inside, Nat.add_sub_cancel_left]
  rfl

/-- An octet that continues a sequence. -/
theorem marksFrom_next {first : UInt8} {position taken owed low high bits digit : Nat}
    (small : digit < 0x40) (inside : low ≤ 0x80 + digit ∧ 0x80 + digit ≤ high) (rest : Octets) :
    marksFrom position (some ⟨first, taken, owed + 1, low, high, bits⟩)
        (UInt8.ofNat (0x80 + digit) :: rest) =
      marksFrom (position + 1)
        (some ⟨first, taken + 1, owed, 0x80, 0xBF, bits * 0x40 + digit⟩) rest := by
  have octet := toNat_octet (show 0x80 + digit < 0x100 by omega)
  simp only [marksFrom, step, octet, if_pos inside, Nat.add_sub_cancel_left]
  rfl

/-- An octet that begins a sequence. -/
theorem marksFrom_begin {b : UInt8} {pending : Pending} (large : 0x80 ≤ b.toNat)
    (begun : begin? b = some pending) (position : Nat) (rest : Octets) :
    marksFrom position none (b :: rest) = marksFrom (position + 1) (some pending) rest := by
  have not_ascii : ¬b.toNat < 0x80 := Nat.not_lt.mpr large
  simp [marksFrom, step, start, not_ascii, begun]

theorem begin?_two {lead : Nat} (lower : 2 ≤ lead) (upper : lead < 0x20) :
    begin? (UInt8.ofNat (0xC0 + lead)) =
      some ⟨UInt8.ofNat (0xC0 + lead), 1, 0, 0x80, 0xBF, lead⟩ := by
  have octet := toNat_octet (show 0xC0 + lead < 0x100 by omega)
  have inside : 0xC2 ≤ 0xC0 + lead ∧ 0xC0 + lead ≤ 0xDF := by omega
  simp only [begin?, octet, if_pos inside, Nat.add_sub_cancel_left]

/-- The second octet of three is bounded so that no shorter sequence and no surrogate is written. -/
theorem begin?_three {lead second : Nat} (upper : lead < 0x10) (small : second < 0x40)
    (long : lead = 0 → 0x20 ≤ second) (scalar : lead = 0xD → second < 0x20) :
    ∃ low high, begin? (UInt8.ofNat (0xE0 + lead)) =
        some ⟨UInt8.ofNat (0xE0 + lead), 1, 1, low, high, lead⟩ ∧
      low ≤ 0x80 + second ∧ 0x80 + second ≤ high := by
  obtain rfl | rfl | ⟨positive, other⟩ : lead = 0 ∨ lead = 0xD ∨ (0 < lead ∧ lead ≠ 0xD) := by omega
  · have bounded := long rfl
    exact ⟨0xA0, 0xBF, rfl, by omega, by omega⟩
  · have bounded := scalar rfl
    exact ⟨0x80, 0x9F, rfl, by omega, by omega⟩
  · have octet := toNat_octet (show 0xE0 + lead < 0x100 by omega)
    refine ⟨0x80, 0xBF, ?_, by omega, by omega⟩
    simp only [begin?, octet]
    rw [if_neg (by omega), if_neg (by omega), if_neg (by omega), if_pos (by omega),
      Nat.add_sub_cancel_left]

/-- The second octet of four is bounded so that no shorter sequence and no number above the last
character is written. -/
theorem begin?_four {lead second : Nat} (upper : lead < 5) (small : second < 0x40)
    (long : lead = 0 → 0x10 ≤ second) (last : lead = 4 → second < 0x10) :
    ∃ low high, begin? (UInt8.ofNat (0xF0 + lead)) =
        some ⟨UInt8.ofNat (0xF0 + lead), 1, 2, low, high, lead⟩ ∧
      low ≤ 0x80 + second ∧ 0x80 + second ≤ high := by
  obtain rfl | rfl | ⟨positive, other⟩ : lead = 0 ∨ lead = 4 ∨ (0 < lead ∧ lead < 4) := by omega
  · have bounded := long rfl
    exact ⟨0x90, 0xBF, rfl, by omega, by omega⟩
  · have bounded := last rfl
    exact ⟨0x80, 0x8F, rfl, by omega, by omega⟩
  · have octet := toNat_octet (show 0xF0 + lead < 0x100 by omega)
    refine ⟨0x80, 0xBF, ?_, by omega, by omega⟩
    simp only [begin?, octet]
    rw [if_neg (by omega), if_neg (by omega), if_neg (by omega), if_neg (by omega),
      if_neg (by omega), if_pos (by omega), Nat.add_sub_cancel_left]

/-- The octets of a character are read as that character, whatever follows them. -/
theorem marksFrom_encodeChar (position : Nat) (c : Char) (rest : Octets) :
    marksFrom position none (encodeChar c ++ rest) =
      .char c :: marksFrom (position + (encodeChar c).length) none rest := by
  have scalar : c.toNat < 0xD800 ∨ (0xDFFF < c.toNat ∧ c.toNat < 0x110000) := c.valid
  have whole : Char.ofNat c.toNat = c := Char.ofNat_toNat c
  simp only [encodeChar]
  generalize c.toNat = code at scalar whole
  by_cases one : code < 0x80
  · have octet := toNat_octet (show code < 0x100 by omega)
    simp [marksFrom, step, start, octet, one, whole]
  by_cases two : code < 0x800
  · have begun := begin?_two (show 2 ≤ code / 0x40 by omega) (by omega)
    have large := toNat_octet (show 0xC0 + code / 0x40 < 0x100 by omega)
    have bits : code / 0x40 * 0x40 + code % 0x40 = code := by omega
    simp only [if_neg one, if_pos two, List.cons_append, List.nil_append]
    rw [marksFrom_begin (by omega) begun, marksFrom_last (by omega) (by omega), bits, whole]
    rfl
  by_cases three : code < 0x10000
  · obtain ⟨low, high, begun, inside⟩ :=
      begin?_three (show code / 0x1000 < 0x10 by omega) (show code / 0x40 % 0x40 < 0x40 by omega)
        (by omega) (by omega)
    have large := toNat_octet (show 0xE0 + code / 0x1000 < 0x100 by omega)
    have bits : (code / 0x1000 * 0x40 + code / 0x40 % 0x40) * 0x40 + code % 0x40 = code := by omega
    simp only [if_neg one, if_neg two, if_pos three, List.cons_append, List.nil_append]
    rw [marksFrom_begin (by omega) begun, marksFrom_next (by omega) inside,
      marksFrom_last (by omega) (by omega), bits, whole]
    rfl
  · obtain ⟨low, high, begun, inside⟩ :=
      begin?_four (show code / 0x40000 < 5 by omega) (show code / 0x1000 % 0x40 < 0x40 by omega)
        (by omega) (by omega)
    have large := toNat_octet (show 0xF0 + code / 0x40000 < 0x100 by omega)
    have bits : ((code / 0x40000 * 0x40 + code / 0x1000 % 0x40) * 0x40 + code / 0x40 % 0x40) * 0x40
        + code % 0x40 = code := by omega
    simp only [if_neg one, if_neg two, if_neg three, List.cons_append, List.nil_append]
    rw [marksFrom_begin (by omega) begun, marksFrom_next (by omega) inside,
      marksFrom_next (by omega) (by omega), marksFrom_last (by omega) (by omega), bits, whole]
    rfl

/-! ## Texts -/

theorem encode_append (front rest : Text) : encode (front ++ rest) = encode front ++ encode rest :=
  List.flatMap_append

theorem marksFrom_encode (position : Nat) (text : Text) :
    marksFrom position none (encode text) = text.map .char := by
  induction text generalizing position with
  | nil => rfl
  | cons c rest induction =>
      rw [encode, List.flatMap_cons, marksFrom_encodeChar, ← encode, induction, List.map_cons]

theorem strict_chars (text : Text) : strict (text.map .char) = .ok text := by
  induction text with
  | nil => rfl
  | cons c rest induction =>
      rw [List.map_cons, strict, induction]
      rfl

/-- A text is read back from its octets. -/
theorem decode_encode (text : Text) : decode (encode text) = .ok text := by
  rw [decode, marks, marksFrom_encode, strict_chars]

theorem decodeLenient_encode (text : Text) : decodeLenient (encode text) = text := by
  rw [decodeLenient, marks, marksFrom_encode, List.map_map]
  exact List.map_id text

end Utf8

namespace Percent

/-! ## Escapes -/

/-- The text consists of characters that stand for themselves and of escapes with two capital
digits. -/
inductive Written (kept : Char → Prop) : Text → Prop where
  /-- Nothing. -/
  | nil : Written kept []
  /-- A character that stands for itself. -/
  | plain {c : Char} {rest : Text} (allowed : kept c) (later : Written kept rest) :
      Written kept (c :: rest)
  /-- An escape. -/
  | escape {high low : Nat} {rest : Text} (high_digit : high < 0x10) (low_digit : low < 0x10)
      (later : Written kept rest) :
      Written kept ('%' :: Hex.capital high :: Hex.capital low :: rest)

variable {kept other : Char → Prop} {safe : List Char}

theorem Written.append {front rest : Text} (first : Written kept front)
    (later : Written kept rest) : Written kept (front ++ rest) := by
  induction first with
  | nil => exact later
  | plain allowed _ induction => exact .plain allowed induction
  | escape high_digit low_digit _ induction => exact .escape high_digit low_digit induction

theorem Written.mono {text : Text} (written : Written kept text)
    (implied : ∀ c, kept c → other c) : Written other text := by
  induction written with
  | nil => exact .nil
  | plain allowed _ induction => exact .plain (implied _ allowed) induction
  | escape high_digit low_digit _ induction => exact .escape high_digit low_digit induction

/-- The characters of a written text are percent signs and digits of escapes, or stand for
themselves. -/
theorem Written.mem {text : Text} {c : Char} (written : Written kept text) (member : c ∈ text) :
    c = '%' ∨ (∃ digit < 0x10, c = Hex.capital digit) ∨ kept c := by
  induction written with
  | nil => cases member
  | plain allowed _ induction =>
      rcases List.mem_cons.mp member with rfl | later
      · exact .inr (.inr allowed)
      · exact induction later
  | escape high_digit low_digit _ induction =>
      simp only [List.mem_cons] at member
      rcases member with mark | high | low | later
      · exact .inl mark
      · exact .inr (.inl ⟨_, high_digit, high⟩)
      · exact .inr (.inl ⟨_, low_digit, low⟩)
      · exact induction later

theorem Written.joined {mark : Char} {pieces : List Text} (separator : kept mark)
    (written : ∀ piece ∈ pieces, Written kept piece) :
    Written kept (Text.joined mark pieces) := by
  induction pieces with
  | nil => exact .nil
  | cons piece others induction =>
      have first := written piece List.mem_cons_self
      cases others with
      | nil => exact first
      | cons next others =>
          have later := induction fun other member =>
            written other (List.mem_cons_of_mem piece member)
          exact first.append (.plain separator later)

/-- The character is written as it is. -/
def Kept (safe : List Char) (c : Char) : Prop :=
  c.toNat < 0x80 ∧ (isUnreserved c = true ∨ c ∈ safe)

/-- An octet stands for itself or is escaped. -/
theorem encodeOctet_cases (safe : List Char) (b : UInt8) :
    (∃ c, Kept safe c ∧ b = UInt8.ofNat c.toNat ∧ encodeOctet safe b = [c]) ∨
      encodeOctet safe b = ['%', Hex.capital (b.toNat / 0x10), Hex.capital (b.toNat % 0x10)] := by
  rw [encodeOctet]
  split
  · rename_i kept
    have code : (Char.ofNat b.toNat).toNat = b.toNat :=
      (show ∀ n < 0x80, (Char.ofNat n).toNat = n by decide) b.toNat kept.1
    refine .inl ⟨Char.ofNat b.toNat, ⟨by omega, kept.2⟩, ?_, rfl⟩
    rw [code, UInt8.ofNat_toNat]
  · exact .inr rfl

theorem written_encodeOctet (safe : List Char) (b : UInt8) :
    Written (Kept safe) (encodeOctet safe b) := by
  have octet := b.toNat_lt
  rcases encodeOctet_cases safe b with ⟨c, kept, -, octet_eq⟩ | octet_eq
  · rw [octet_eq]
    exact .plain kept .nil
  · rw [octet_eq]
    exact .escape (by omega) (by omega) .nil

theorem written_encode (safe : List Char) (text : Text) :
    Written (Kept safe) (encode safe text) := by
  rw [encode]
  induction Utf8.encode text with
  | nil => exact .nil
  | cons b rest induction =>
      rw [List.flatMap_cons]
      exact (written_encodeOctet safe b).append induction

theorem isUnreserved_capital : ∀ value < 0x10, isUnreserved (Hex.capital value) = true := by
  decide

/-- An encoded text has no characters but the percent sign and those that stand for themselves. -/
theorem mem_encode {text : Text} {c : Char} (member : c ∈ encode safe text) :
    c = '%' ∨ isUnreserved c = true ∨ c ∈ safe := by
  rcases (written_encode safe text).mem member with mark | ⟨digit, small, rfl⟩ | kept
  · exact .inl mark
  · exact .inr (.inl (isUnreserved_capital digit small))
  · exact .inr kept.2

/-! ## Escapes that are read back -/

theorem unescape_cons {b : UInt8} (other : b ≠ 0x25) (rest : Octets) :
    unescape (b :: rest) = b :: unescape rest := by
  conv => lhs; unfold unescape
  exact if_neg other

theorem value?_capital : ∀ value < 0x10, Hex.value? (Hex.capital value) = some value := by
  decide

/-- Hexadecimal digits are digits and letters of ASCII, with values below sixteen. -/
theorem value?_bounds {c : Char} {value : Nat} (found : Hex.value? c = some value) :
    value < 0x10 ∧ ((0x30 ≤ c.toNat ∧ c.toNat ≤ 0x39) ∨ (0x41 ≤ c.toNat ∧ c.toNat ≤ 0x46) ∨
      (0x61 ≤ c.toNat ∧ c.toNat ≤ 0x66)) := by
  rw [Hex.value?] at found
  split at found
  · obtain rfl := Option.some.inj found
    omega
  · split at found
    · obtain rfl := Option.some.inj found
      omega
    · split at found
      · obtain rfl := Option.some.inj found
        omega
      · cases found

/-- An escape is read as the octet that its digits write, whatever follows it. -/
theorem unescape_escape {high low : Char} {h l : Nat} (high_value : Hex.value? high = some h)
    (low_value : Hex.value? low = some l) (rest : Octets) :
    unescape (Utf8.encode ['%', high, low] ++ rest) =
      UInt8.ofNat (h * 0x10 + l) :: unescape rest := by
  have high_bounds := (value?_bounds high_value).2
  have low_bounds := (value?_bounds low_value).2
  have read {c : Char} (ascii : c.toNat < 0x80) :
      Char.ofNat (UInt8.ofNat c.toNat).toNat = c := by
    rw [Utf8.toNat_octet (by omega), Char.ofNat_toNat]
  have octets : Utf8.encode ['%', high, low] =
      [0x25, UInt8.ofNat high.toNat, UInt8.ofNat low.toNat] := by
    simp only [Utf8.encode, List.flatMap_cons, List.flatMap_nil,
      Utf8.encodeChar_ascii (show high.toNat < 0x80 by omega),
      Utf8.encodeChar_ascii (show low.toNat < 0x80 by omega)]
    rfl
  rw [octets]
  simp only [List.cons_append, List.nil_append, unescape, if_true,
    read (show high.toNat < 0x80 by omega), read (show low.toNat < 0x80 by omega), high_value,
    low_value]

section ReadBack

variable (unescaped : '%' ∉ safe)
include unescaped

/-- The percent sign does not stand for itself. -/
theorem Kept.ne_percent {c : Char} (kept : Kept safe c) : UInt8.ofNat c.toNat ≠ 0x25 := by
  intro percent
  have code : c.toNat = 0x25 := by
    rw [← Utf8.toNat_octet (Nat.lt_trans kept.1 (by decide)), percent]
    rfl
  obtain rfl : c = '%' := Char.toNat_inj.mp code
  rcases kept.2 with unreserved | listed
  · cases unreserved
  · exact unescaped listed

/-- An octet is read back, whatever follows it. -/
theorem unescape_encodeOctet (b : UInt8) (rest : Octets) :
    unescape (Utf8.encode (encodeOctet safe b) ++ rest) = b :: unescape rest := by
  rcases encodeOctet_cases safe b with ⟨c, kept, rfl, octet_eq⟩ | octet_eq
  · have octets_eq : Utf8.encode [c] = [UInt8.ofNat c.toNat] := by
      rw [Utf8.encode, List.flatMap_singleton, Utf8.encodeChar_ascii kept.1]
    rw [octet_eq, octets_eq, List.singleton_append, unescape_cons (kept.ne_percent unescaped)]
  · have octet := b.toNat_lt
    have whole : UInt8.ofNat (b.toNat / 0x10 * 0x10 + b.toNat % 0x10) = b := by
      rw [Nat.div_add_mod', UInt8.ofNat_toNat]
    rw [octet_eq, unescape_escape (value?_capital _ (by omega)) (value?_capital _ (by omega)),
      whole]

/-- The octets of a text are read back from its encoding. -/
theorem unescape_encode (text : Text) :
    unescape (Utf8.encode (encode safe text)) = Utf8.encode text := by
  rw [encode]
  induction Utf8.encode text with
  | nil => rfl
  | cons b rest induction =>
      rw [List.flatMap_cons, Utf8.encode_append, unescape_encodeOctet unescaped, induction]

/-- A text is read back from its encoding. -/
theorem decodeStrict_encode (text : Text) : decodeStrict (encode safe text) = .ok text := by
  rw [decodeStrict, unescape_encode unescaped, Utf8.decode_encode]

end ReadBack

end Percent
end HttpAuth
