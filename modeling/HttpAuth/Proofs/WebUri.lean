import HttpAuth.Proofs.AddressForm
import HttpAuth.Proofs.Target

/-!
# URIs of the web

A URI of the web has a scheme, a host and a path, and maybe user information, a port, a query and a
fragment, each written with the characters of its kind.  Splitting the text of such a URI gives its
parts back: the host in small letters and without brackets, and the port as a number.
-/

namespace HttpAuth

namespace Text

/-! ## Marked parts -/

/-- A text behind its mark, if there is one. -/
def marked (mark : Char) : Option Text → Text
  | none => []
  | some text => mark :: text

theorem cut_append_marked {mark : Char} {front : Text} (absent : mark ∉ front)
    (rest : Option Text) : cut mark (front ++ marked mark rest) = (front, rest) := by
  cases rest with
  | none => rw [marked, List.append_nil, cut_of_not_mem absent]
  | some rest => rw [marked, cut_append_mark absent]

theorem mem_marked {mark c : Char} {text : Option Text} (member : c ∈ marked mark text) :
    c = mark ∨ ∃ inside ∈ text, c ∈ inside := by
  cases text with
  | none => cases member
  | some inside => exact (List.mem_cons.mp member).imp id fun later => ⟨inside, rfl, later⟩

end Text

namespace Uri

open Text

/-- The marks that delimit parts inside a part. -/
def subDelimiters : List Char :=
  "!$&'()*+,;=".toList

/-- The character may stand in the name of a host. -/
def isNameChar (c : Char) : Bool :=
  Percent.isUnreserved c || subDelimiters.contains c

/-- The character may stand in user information. -/
def isUserChar (c : Char) : Bool :=
  isNameChar c || c == '%' || c == ':'

/-- The character may stand in a path. -/
def isPathChar (c : Char) : Bool :=
  isUserChar c || c == '@' || c == '/'

/-- The character may stand in a query or a fragment. -/
def isQueryChar (c : Char) : Bool :=
  isPathChar c || c == '?'

theorem isPathChar_of_isUserChar {c : Char} (valid : isUserChar c = true) :
    isPathChar c = true := by
  simp [isPathChar, valid]

theorem isQueryChar_of_isPathChar {c : Char} (valid : isPathChar c = true) :
    isQueryChar c = true := by
  simp [isQueryChar, valid]

theorem isUserChar_of_isNameChar {c : Char} (valid : isNameChar c = true) :
    isUserChar c = true := by
  simp [isUserChar, valid]

theorem isUserChar_of_isAlphanum {c : Char} (alphanum : c.isAlphanum = true) :
    isUserChar c = true := by
  simp [isUserChar, isNameChar, Percent.isUnreserved, alphanum]

theorem isVisible_of_isQueryChar {c : Char} (valid : isQueryChar c = true) : IsVisible c := by
  have delimiters : subDelimiters.all (decide <| IsVisible ·) = true := rfl
  simp only [isQueryChar, isPathChar, isUserChar, isNameChar, Percent.isUnreserved,
    Bool.or_eq_true, beq_iff_eq, List.contains_iff_mem] at valid
  rcases valid with (((((((((alphanum | rfl) | rfl) | rfl) | rfl) | delimiter) | rfl) | rfl) |
    rfl) | rfl) | rfl
  · exact isVisible_of_isAlphanum alphanum
  · decide
  · decide
  · decide
  · decide
  · exact of_decide_eq_true (List.all_eq_true.mp delimiters c delimiter)
  all_goals decide

theorem isVisible_of_isUserChar {c : Char} (valid : isUserChar c = true) : IsVisible c :=
  isVisible_of_isQueryChar (isQueryChar_of_isPathChar (isPathChar_of_isUserChar valid))

end Uri

namespace Address

theorem isUserChar_of_isMark {c : Char} (mark : IsMark c) : Uri.isUserChar c = true := by
  rcases mark with digit | rfl | rfl
  · apply Uri.isUserChar_of_isAlphanum
    apply Text.isAlphanum_iff.mpr
    simp only [Hex.value?] at digit
    split at digit
    · omega
    · split at digit
      · omega
      · split at digit
        · omega
        · cases digit
  · decide
  · decide

end Address

/-! ## The parts of a URI -/

/-- The host of a URI of the web. -/
inductive WebHost where
  /-- A registered name. -/
  | name (text : Text) (filled : text ≠ []) (valid : text.all Uri.isNameChar = true)
  /-- An address of version 6. -/
  | address (text : Text) (form : Address.Form text)

namespace WebHost

/-- The host without brackets. -/
def bare : WebHost → Text
  | name text _ _ => text
  | address text _ => text

/-- The host is written in brackets. -/
def bracketed : WebHost → Bool
  | name _ _ _ => false
  | address _ _ => true

/-- The host as it is written in a URI. -/
def text (host : WebHost) : Text :=
  if host.bracketed then '[' :: host.bare ++ [']'] else host.bare

theorem bare_ne_nil (host : WebHost) : host.bare ≠ [] := by
  cases host with
  | name text filled valid => exact filled
  | address text form => exact List.ne_nil_of_mem form.colon_mem

theorem isUserChar_of_mem_bare {host : WebHost} {c : Char} (member : c ∈ host.bare) :
    Uri.isUserChar c = true := by
  cases host with
  | name text filled valid =>
      exact Uri.isUserChar_of_isNameChar (List.all_eq_true.mp valid c member)
  | address text form => exact Address.isUserChar_of_isMark (form.isMark c member)

theorem percent_not_mem_bare (host : WebHost) : '%' ∉ host.bare := by
  cases host with
  | name text filled valid =>
      exact fun member => absurd (List.all_eq_true.mp valid '%' member) (by decide)
  | address text form =>
      exact fun member => absurd (form.isMark '%' member) (by unfold Address.IsMark; decide)

theorem form_of_bracketed {host : WebHost} (bracketed : host.bracketed = true) :
    Address.Form host.bare := by
  cases host with
  | name text filled valid => cases bracketed
  | address text form => exact form

/-- An address has a colon, and a name has none. -/
theorem colon_mem_bare_iff (host : WebHost) : ':' ∈ host.bare ↔ host.bracketed = true := by
  cases host with
  | name text filled valid =>
      constructor
      · exact fun member => absurd (List.all_eq_true.mp valid ':' member) (by decide)
      · nofun
  | address text form => exact ⟨fun _ => rfl, fun _ => form.colon_mem⟩

end WebHost

/-- A URI of the web. -/
structure WebUri where
  /-- The service is reached over TLS. -/
  secure : Bool
  /-- The scheme, in any letter case. -/
  scheme : Text
  /-- The scheme is one of the web. -/
  scheme_eq : scheme.map Char.toLower = (if secure then "https" else "http").toList
  /-- What stands in front of the host. -/
  user : Option Text := none
  /-- User information has characters of its kind. -/
  user_valid : ∀ text ∈ user, text.all Uri.isUserChar = true := by nofun
  /-- The host. -/
  host : WebHost
  /-- The digits of the port. -/
  port : Option Text := none
  /-- A port is a number that sixteen bits can hold, but not zero. -/
  port_valid : ∀ digits ∈ port, digits.all Char.isDigit = true ∧
    1 ≤ Text.digitsValue digits ∧ Text.digitsValue digits ≤ 65535 := by nofun
  /-- The path. -/
  path : Text := []
  /-- A path starts with a slash unless it is empty. -/
  path_rooted : path = [] ∨ path.head? = some '/' := by exact .inl rfl
  /-- The path has characters of its kind. -/
  path_valid : path.all Uri.isPathChar = true := by rfl
  /-- The query. -/
  query : Option Text := none
  /-- The query has characters of its kind. -/
  query_valid : ∀ text ∈ query, text.all Uri.isQueryChar = true := by nofun
  /-- The fragment. -/
  fragment : Option Text := none
  /-- The fragment has characters of its kind. -/
  fragment_valid : ∀ text ∈ fragment, text.all Uri.isQueryChar = true := by nofun

namespace WebUri

open Text

variable (web : WebUri)

/-- User information with the mark behind it. -/
def userText : Text :=
  (web.user.map (· ++ ['@'])).getD []

/-- The host and the port. -/
def hostPort : Text :=
  web.host.text ++ marked ':' web.port

/-- What stands between two slashes and the path. -/
def authority : Text :=
  web.userText ++ web.hostPort

/-- The path and the query. -/
def resource : Text :=
  web.path ++ marked '?' web.query

/-- The text of the URI. -/
def text : Text :=
  web.scheme ++ ':' :: '/' :: '/' :: (web.authority ++ (web.resource ++ marked '#' web.fragment))

/-- The parts of the URI. -/
def uri : Uri where
  scheme := (if web.secure then "https" else "http").toList
  authority := web.authority
  path := web.path
  query := web.query.getD []

/-! ## The characters of a URI -/

variable {web} {c : Char}

theorem isAlpha_of_mem_scheme (member : c ∈ web.scheme) : c.isAlpha = true := by
  have small : c.toLower ∈ (if web.secure then "https" else "http").toList := by
    rw [← web.scheme_eq]
    exact List.mem_map_of_mem member
  have letters : (if web.secure then "https" else "http").toList.all Char.isAlpha = true := by
    cases web.secure <;> rfl
  exact isAlpha_of_toLower (List.all_eq_true.mp letters _ small)

theorem isVisible_of_mem_scheme (member : c ∈ web.scheme) : IsVisible c := by
  apply isVisible_of_isAlphanum
  rw [Char.isAlphanum, isAlpha_of_mem_scheme member, Bool.true_or]

theorem not_mem_hostPort (other : Uri.isUserChar c = false)
    (unbracketed : web.host.bracketed = false ∨ c ≠ '[' ∧ c ≠ ']') : c ∉ web.hostPort := by
  have not_bare : c ∉ web.host.bare := fun member =>
    absurd (WebHost.isUserChar_of_mem_bare member) (by simp [other])
  have not_host : c ∉ web.host.text := by
    rw [WebHost.text]
    split
    · rename_i bracketed
      have ⟨not_left, not_right⟩ := unbracketed.resolve_left (by simp [bracketed])
      simp [not_bare, not_left, not_right]
    · exact not_bare
  rw [hostPort, List.mem_append]
  rintro (host | port)
  · exact not_host host
  · rcases mem_marked port with rfl | ⟨digits, given, inside⟩
    · exact absurd other (by decide)
    · have digit := List.all_eq_true.mp (web.port_valid digits given).1 c inside
      have mark : Address.IsMark c := .inl (Address.value?_of_isDigit digit)
      exact absurd (Address.isUserChar_of_isMark mark) (by simp [other])

theorem not_mem_authority (other : Uri.isUserChar c = false) (not_at : c ≠ '@')
    (unbracketed : web.host.bracketed = false ∨ c ≠ '[' ∧ c ≠ ']') : c ∉ web.authority := by
  rw [authority, List.mem_append]
  rintro (user | rest)
  · cases given : web.user with
    | none => simp [userText, given] at user
    | some text =>
        simp only [userText, given, Option.map_some, Option.getD_some, List.mem_append,
          List.mem_singleton, not_at, or_false] at user
        exact absurd (List.all_eq_true.mp (web.user_valid text given) c user) (by simp [other])
  · exact not_mem_hostPort other unbracketed rest

theorem mem_resource (member : c ∈ web.resource) : Uri.isQueryChar c = true := by
  rw [resource, List.mem_append] at member
  rcases member with path | query
  · exact Uri.isQueryChar_of_isPathChar (List.all_eq_true.mp web.path_valid c path)
  · rcases mem_marked query with rfl | ⟨text, given, inside⟩
    · decide
    · exact List.all_eq_true.mp (web.query_valid text given) c inside

theorem isVisible_of_mem_authority (member : c ∈ web.authority) : IsVisible c := by
  by_cases valid : Uri.isUserChar c = true
  · exact Uri.isVisible_of_isUserChar valid
  · refine Decidable.byContradiction fun hidden => ?_
    have other (mark : Char) (visible : IsVisible mark) : c ≠ mark := by
      rintro rfl
      exact hidden visible
    exact not_mem_authority (Bool.eq_false_iff.mpr valid) (other '@' (by decide))
      (.inr ⟨other '[' (by decide), other ']' (by decide)⟩) member

theorem isVisible_of_mem_text (member : c ∈ web.text) : IsVisible c := by
  simp only [text, List.mem_append, List.mem_cons] at member
  rcases member with scheme | rfl | rfl | rfl | authority | resource | fragment
  · exact isVisible_of_mem_scheme scheme
  · decide
  · decide
  · decide
  · exact isVisible_of_mem_authority authority
  · exact Uri.isVisible_of_isQueryChar (mem_resource resource)
  · rcases mem_marked fragment with rfl | ⟨text, given, inside⟩
    · decide
    · exact Uri.isVisible_of_isQueryChar
        (List.all_eq_true.mp (web.fragment_valid text given) c inside)

/-! ## Splitting -/

variable (web)

theorem exists_scheme_cons :
    ∃ first others, web.scheme = first :: others ∧ first.isAlpha = true := by
  have filled : web.scheme ≠ [] := by
    intro empty
    have scheme_eq := web.scheme_eq
    rw [empty] at scheme_eq
    revert scheme_eq
    cases web.secure <;> decide
  obtain ⟨first, others, scheme_eq⟩ := List.exists_cons_of_ne_nil filled
  have member : first ∈ web.scheme := by
    rw [scheme_eq]
    exact List.mem_cons_self
  exact ⟨first, others, scheme_eq, isAlpha_of_mem_scheme member⟩

theorem text_ne_nil : web.text ≠ [] := by
  rw [text]
  exact List.append_ne_nil_of_right_ne_nil _ (List.cons_ne_nil _ _)

theorem cleaned_text : Uri.cleaned web.text = web.text := by
  have kept_left : web.text.dropWhile (fun c => c.toNat ≤ 0x20) = web.text := by
    obtain ⟨first, others, scheme_eq, alpha⟩ := web.exists_scheme_cons
    have visible : IsVisible first :=
      isVisible_of_isAlphanum (by rw [Char.isAlphanum, alpha, Bool.true_or])
    have kept : decide (first.toNat ≤ 0x20) = false := by
      rw [decide_eq_false_iff_not]
      exact Nat.not_le.mpr visible.1
    simp [text, scheme_eq, kept]
  rw [Uri.cleaned, kept_left, List.filter_eq_self]
  intro c member
  have visible := isVisible_of_mem_text member
  have other : ∀ mark : Char, mark.toNat ≤ 0x20 → (c != mark) = true := by
    intro mark low
    refine bne_iff_ne.mpr ?_
    rintro rfl
    exact absurd visible.1 (Nat.not_lt.mpr low)
  rw [other '\t' (by decide), other '\r' (by decide), other '\n' (by decide)]
  rfl

theorem cutScheme_text : Uri.cutScheme web.text =
    (web.uri.scheme,
      '/' :: '/' :: (web.authority ++ (web.resource ++ marked '#' web.fragment))) := by
  have no_colon : ':' ∉ web.scheme := fun member =>
    absurd (isAlpha_of_mem_scheme member) (by decide)
  have first_alpha : (web.scheme.head?.map Char.isAlpha).getD false = true := by
    obtain ⟨first, others, scheme_eq, alpha⟩ := web.exists_scheme_cons
    simp [scheme_eq, alpha]
  have all_valid : web.scheme.all Uri.isSchemeChar = true := by
    rw [List.all_eq_true]
    intro c member
    simp [Uri.isSchemeChar, Char.isAlphanum, isAlpha_of_mem_scheme member]
  have small : lower web.scheme = web.uri.scheme := by
    rw [lower_eq_map fun c member => (isVisible_of_mem_scheme member).2, web.scheme_eq, uri]
  rw [Uri.cutScheme, text, cut_append_mark no_colon]
  simp only [first_alpha, all_valid, small, Bool.and_self, if_true]

/-- What follows the authority is nothing, or starts with a mark that ends the authority. -/
theorem behind_authority : web.resource ++ marked '#' web.fragment = [] ∨
    ∃ mark rest, web.resource ++ marked '#' web.fragment = mark :: rest ∧
      Uri.endsAuthority mark = true := by
  rcases web.path_rooted with empty | rooted
  · rw [resource, empty, List.nil_append]
    cases web.query with
    | some query => exact .inr ⟨'?', _, rfl, by decide⟩
    | none =>
        cases web.fragment with
        | some fragment => exact .inr ⟨'#', _, rfl, by decide⟩
        | none => exact .inl rfl
  · obtain ⟨rest, path_eq⟩ := List.head?_eq_some_iff.mp rooted
    rw [resource, path_eq]
    exact .inr ⟨'/', _, rfl, by decide⟩

theorem cutAuthority_text :
    Uri.cutAuthority
        ('/' :: '/' :: (web.authority ++ (web.resource ++ marked '#' web.fragment))) =
      (web.authority, web.resource ++ marked '#' web.fragment) := by
  have inside : ∀ c ∈ web.authority, (!Uri.endsAuthority c) = true := by
    intro c member
    rw [Bool.not_eq_true', Bool.eq_false_iff]
    intro ends
    simp only [Uri.endsAuthority, Bool.or_eq_true, beq_iff_eq] at ends
    rcases ends with (rfl | rfl) | rfl
    all_goals exact not_mem_authority (by decide) (by decide) (.inr (by decide)) member
  simp only [Uri.cutAuthority, List.take_succ_cons, List.take_zero, List.drop_succ_cons,
    List.drop_zero, if_true]
  rw [List.takeWhile_append_of_pos inside, List.dropWhile_append_of_pos inside]
  rcases web.behind_authority with nothing | ⟨mark, rest, behind_eq, ends⟩
  · simp [nothing]
  · simp [behind_eq, ends]

theorem parts_text : Uri.parts web.text = web.uri := by
  have unmarked : '#' ∉ web.resource := fun member =>
    absurd (mem_resource member) (by decide)
  have unquestioned : '?' ∉ web.path := fun member =>
    absurd (List.all_eq_true.mp web.path_valid '?' member) (by decide)
  rw [Uri.parts, web.cleaned_text, web.cutScheme_text]
  simp only [web.cutAuthority_text, cut_append_marked unmarked]
  rw [resource, cut_append_marked unquestioned]
  rfl

/-! ## The authority -/

theorem hostPart_authority : Uri.hostPart web.authority = web.hostPort := by
  have unmarked : '@' ∉ web.hostPort := not_mem_hostPort (by decide) (.inr (by decide))
  rw [Uri.hostPart, authority, userText]
  cases web.user with
  | none => exact afterLast_of_not_mem unmarked
  | some user =>
      rw [Option.map_some, Option.getD_some, List.append_assoc]
      exact afterLast_append_mark user unmarked

theorem checkConfusables_authority : Uri.checkConfusables web.authority = .ok () := by
  have large : ∀ code ∈ Uri.confusables, 0x80 ≤ code := by decide
  have none_found : (web.authority.any fun c => Uri.confusables.contains c.toNat) = false := by
    rw [List.any_eq_false]
    intro c member found
    have visible := isVisible_of_mem_authority member
    have above := large c.toNat (List.contains_iff_mem.mp found)
    exact absurd visible.2 (Nat.not_lt.mpr above)
  rw [Uri.checkConfusables, none_found]
  rfl

theorem cut_hostPort_of_name (named : web.host.bracketed = false) :
    cut '[' web.hostPort = (web.host.bare ++ marked ':' web.port, none) := by
  have host_eq : web.host.text = web.host.bare := by simp [WebHost.text, named]
  rw [cut_of_not_mem (not_mem_hostPort (by decide) (.inl named)), hostPort, host_eq]

theorem cut_hostPort_of_address (bracketed : web.host.bracketed = true) :
    cut '[' web.hostPort = ([], some (web.host.bare ++ ']' :: marked ':' web.port)) := by
  have host_eq : web.hostPort = '[' :: (web.host.bare ++ ']' :: marked ':' web.port) := by
    simp [hostPort, WebHost.text, bracketed]
  rw [host_eq]
  exact cut_append_mark List.not_mem_nil _

theorem cut_bracket (rest : Text) :
    cut ']' (web.host.bare ++ ']' :: rest) = (web.host.bare, some rest) :=
  cut_append_mark
    (fun member => absurd (WebHost.isUserChar_of_mem_bare member) (by decide)) rest

theorem checkBrackets_authority : Uri.checkBrackets web.authority = .ok () := by
  cases bracketed : web.host.bracketed with
  | false =>
      have no_left : web.authority.contains '[' = false := by
        rw [List.contains_eq_mem, decide_eq_false_iff_not]
        exact not_mem_authority (by decide) (by decide) (.inl bracketed)
      have no_right : web.authority.contains ']' = false := by
        rw [List.contains_eq_mem, decide_eq_false_iff_not]
        exact not_mem_authority (by decide) (by decide) (.inl bracketed)
      rw [Uri.checkBrackets, no_left, no_right]
  | true =>
      have left : web.authority.contains '[' = true := by
        simp [authority, hostPort, WebHost.text, bracketed]
      have right : web.authority.contains ']' = true := by
        simp [authority, hostPort, WebHost.text, bracketed]
      have closed : (!(marked ':' web.port).isEmpty && (marked ':' web.port).head? != some ':') =
          false := by
        cases web.port <;> rfl
      rw [Uri.checkBrackets, left, right]
      simp only [web.hostPart_authority, web.cut_hostPort_of_address bracketed, web.cut_bracket,
        Option.getD_some, closed, List.isEmpty_nil, Bool.not_true, Bool.or_false,
        Bool.false_eq_true, if_false]
      exact (WebHost.form_of_bracketed bracketed).checkHost_eq

/-- The text of a URI of the web can be split. -/
theorem split_text : Uri.split web.text = .ok web.uri := by
  refine Uri.split_eq_ok_iff.mpr ?_
  rw [web.parts_text]
  exact ⟨web.checkBrackets_authority, web.checkConfusables_authority, rfl⟩

theorem host_uri : web.uri.host = web.host.bare.map Char.toLower := by
  have raw : web.uri.rawHost = web.host.bare := by
    have authority_eq : web.uri.authority = web.authority := rfl
    rw [Uri.rawHost, authority_eq, web.hostPart_authority]
    cases bracketed : web.host.bracketed with
    | false =>
        have no_colon := mt web.host.colon_mem_bare_iff.mp (by simp [bracketed])
        simp only [web.cut_hostPort_of_name bracketed, cut_append_marked no_colon]
    | true => simp only [web.cut_hostPort_of_address bracketed, web.cut_bracket]
  rw [Uri.host, raw, cut_of_not_mem web.host.percent_not_mem_bare]
  exact lower_eq_map fun c member =>
    (Uri.isVisible_of_isUserChar (WebHost.isUserChar_of_mem_bare member)).2

theorem portText_uri : web.uri.portText = web.port.getD [] := by
  have authority_eq : web.uri.authority = web.authority := rfl
  rw [Uri.portText, authority_eq, web.hostPart_authority]
  cases bracketed : web.host.bracketed with
  | false =>
      have no_colon := mt web.host.colon_mem_bare_iff.mp (by simp [bracketed])
      simp only [web.cut_hostPort_of_name bracketed, cut_append_marked no_colon]
  | true =>
      have cut_colon : cut ':' (marked ':' web.port) = ([], web.port) :=
        cut_append_marked List.not_mem_nil web.port
      simp only [web.cut_hostPort_of_address bracketed, web.cut_bracket, Option.getD_some,
        cut_colon]

theorem port_filled {digits : Text} (given : web.port = some digits) : digits.isEmpty = false := by
  rw [List.isEmpty_eq_false_iff]
  rintro rfl
  exact absurd (web.port_valid [] given).2.1 (by decide)

/-- The digits of a port are read as a number. -/
theorem port_uri (short : ∀ digits ∈ web.port, digits.length ≤ digitLimit) :
    web.uri.port = (web.port.map fun digits => .number (digitsValue digits)).getD .absent := by
  rw [Uri.port, web.portText_uri]
  cases given : web.port with
  | none => rfl
  | some digits =>
      obtain ⟨all_digits, -, bounded⟩ := web.port_valid digits given
      have number : Uri.isPortNumber digits = true := by
        have limited := short digits given
        simp only [Uri.isPortNumber, Bool.and_eq_true, decide_eq_true_eq]
        exact ⟨⟨all_digits, limited⟩, bounded⟩
      simp only [Option.getD_some, Option.map_some, web.port_filled given, number,
        Bool.false_eq_true, if_false, if_true]

/-- More digits than an integer may be written with are no port, whatever their value. -/
theorem port_uri_of_long {digits : Text} (given : web.port = some digits)
    (long : digitLimit < digits.length) : web.uri.port = .invalid := by
  have no_number : Uri.isPortNumber digits = false := by
    rw [Bool.eq_false_iff, Uri.isPortNumber]
    intro number
    simp only [Bool.and_eq_true, decide_eq_true_eq] at number
    omega
  rw [Uri.port, web.portText_uri, given]
  simp only [Option.getD_some, web.port_filled given, no_number, Bool.false_eq_true, if_false]

/-- The URI is absolute. -/
theorem absolute_uri : (web.uri.scheme = "http".toList ∨ web.uri.scheme = "https".toList) ∧
    web.uri.host ≠ [] := by
  constructor
  · have scheme_eq : web.uri.scheme = (if web.secure then "https" else "http").toList := rfl
    rw [scheme_eq]
    cases web.secure
    · exact .inl rfl
    · exact .inr rfl
  · rw [web.host_uri]
    exact mt List.map_eq_nil_iff.mp web.host.bare_ne_nil

end WebUri
end HttpAuth
