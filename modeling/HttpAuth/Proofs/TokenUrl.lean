import HttpAuth.Proofs.Exchange
import HttpAuth.Proofs.Rendering
import HttpAuth.Proofs.TokenLine
import HttpAuth.Proofs.WebUri

/-!
# The URL of a token request

The realm of a challenge goes through a URI, a target, a request line and a URL.  For a URI of the
web the way leads to the same scheme, host, path and query, with a port in any case and with the
forwarded parameters at the end; user information and the fragment are lost on the way.
-/

namespace HttpAuth

open Run

/-- Zeros in front of digits do not count. -/
theorem Text.digitsValue_zeros_append (count : Nat) (digits : Text) :
    digitsValue (List.replicate count '0' ++ digits) = digitsValue digits := by
  induction count with
  | zero => rfl
  | succ count induction => exact induction

namespace WebUri

variable (web : WebUri)

/-- The host of a URL in small letters, with brackets around an address. -/
def smallHost : Text :=
  let small := web.host.bare.map Char.toLower
  if web.host.bracketed then '[' :: small ++ [']'] else small

/-- The port, or else the one of the scheme. -/
def portNumber : Nat :=
  (web.port.map Text.digitsValue).getD (if web.secure then 443 else 80)

/-- The query of a URL, behind its mark: what is forwarded comes last. -/
def tokenQuery (forwarded : Text) : Text :=
  let own := web.query.getD []
  if own = [] then
    if forwarded = [] then [] else '?' :: forwarded
  else
    '?' :: own ++ if forwarded = [] then [] else '&' :: forwarded

/-- The URL that a token is requested from. -/
def tokenUrl (forwarded : Text) : Text :=
  web.scheme.map Char.toLower ++ "://".toList ++ web.smallHost ++
    ':' :: (toString web.portNumber).toList ++
    (if web.path = [] then ['/'] else web.path) ++ web.tokenQuery forwarded

theorem colon_mem_small_iff :
    ':' ∈ web.host.bare.map Char.toLower ↔ web.host.bracketed = true := by
  have kept {c : Char} : c.toNat < 0x80 → c.toLower = ':' → c = ':' :=
    Text.forall_ascii (fun c => c.toLower = ':' → c = ':') (by decide)
  rw [← web.host.colon_mem_bare_iff, List.mem_map]
  constructor
  · rintro ⟨c, member, small⟩
    have visible := Uri.isVisible_of_isUserChar (WebHost.isUserChar_of_mem_bare member)
    rwa [← kept visible.2 small]
  · exact fun member => ⟨':', member, by decide⟩

theorem urlHost_eq : Endpoint.urlHost (web.host.bare.map Char.toLower) = web.smallHost := by
  have contains_eq : (web.host.bare.map Char.toLower).contains ':' = web.host.bracketed := by
    rw [List.contains_eq_mem, Bool.eq_iff_iff, decide_eq_true_eq, colon_mem_small_iff]
  rw [Endpoint.urlHost, contains_eq]
  rfl

end WebUri

namespace Challenge

variable {challenge : Challenge} {web : WebUri}

theorem target_of_web (realm : challenge.realm? = some web.text)
    (short : ∀ digits ∈ web.port, digits.length ≤ Text.digitLimit) :
    challenge.target = .ok (challenge.reached web.uri) := by
  have valid : web.uri.port ≠ .invalid := by
    rw [web.port_uri short]
    cases web.port <;> nofun
  exact target_eq_ok_iff.mpr ⟨web.text, web.uri, realm, web.split_text, web.absolute_uri.1,
    web.absolute_uri.2, valid, rfl⟩

theorem target_of_long_port {digits : Text} (realm : challenge.realm? = some web.text)
    (given : web.port = some digits) (long : Text.digitLimit < digits.length) :
    challenge.target = .error (.port web.text) := by
  have invalid := web.port_uri_of_long given long
  rw [target_eq_targetOfUri web.text_ne_nil realm web.split_text]
  rcases challenge.targetOfUri_cases web.text web.uri with
    ⟨relative, -⟩ | ⟨-, -, ⟨-, refused⟩ | ⟨valid, -⟩⟩
  · exact absurd web.absolute_uri relative
  · exact refused
  · exact absurd invalid valid

theorem resource_reached : (challenge.reached web.uri).resource =
    (if web.path = [] then ['/'] else web.path) ++ web.tokenQuery challenge.query := by
  have path_eq : (challenge.reached web.uri).path = if web.path = [] then ['/'] else web.path := by
    simp [reached, WebUri.uri]
  have query_eq : (challenge.reached web.uri).query =
      mergedQuery (web.query.getD []) challenge.query := rfl
  rw [RealmTarget.resource, path_eq, query_eq, WebUri.tokenQuery]
  cases web.query.getD [] with
  | nil => cases challenge.query <;> simp [mergedQuery, Text.joined]
  | cons first others => cases challenge.query <;> simp [mergedQuery, Text.joined]

theorem url_reached : Endpoint.url web.secure (web.host.bare.map Char.toLower)
    (Int.ofNat web.portNumber) (challenge.reached web.uri).resource =
      web.tokenUrl challenge.query := by
  have rooted : (challenge.reached web.uri).resource.head? = some '/' := by
    rw [resource_reached]
    rcases web.path_rooted with empty | rooted
    · simp [empty]
    · obtain ⟨rest, path_eq⟩ := List.head?_eq_some_iff.mp rooted
      simp [path_eq]
  rw [Endpoint.url, Endpoint.urlTarget, if_pos rooted, Endpoint.base, web.urlHost_eq,
    resource_reached, WebUri.tokenUrl, web.scheme_eq]
  simp only [List.append_assoc]
  rfl

/-- The dialer leads to the host and the port of the URI. -/
theorem endpoint_reached (short : ∀ digits ∈ web.port, digits.length ≤ Text.digitLimit) :
    Dialer.http.endpoint (challenge.reached web.uri) =
      .remote web.secure (web.host.bare.map Char.toLower) (Int.ofNat web.portNumber) := by
  have secure_eq : (challenge.reached web.uri).secure = web.secure := by
    have scheme_eq : web.uri.scheme = (if web.secure then "https" else "http").toList := rfl
    rw [reached, scheme_eq]
    cases web.secure <;> rfl
  have host_eq : (challenge.reached web.uri).host = web.host.bare.map Char.toLower := web.host_uri
  have port_eq : (challenge.reached web.uri).port = web.port.map Text.digitsValue := by
    have number_eq : (challenge.reached web.uri).port = web.uri.port.number? := rfl
    rw [number_eq, web.port_uri short]
    cases web.port <;> rfl
  rw [Dialer.endpoint, secure_eq, host_eq, port_eq, Endpoint.ofHost, WebUri.portNumber]
  cases given : web.port with
  | none => cases web.secure <;> rfl
  | some digits =>
      have positive := (web.port_valid digits given).2.1
      have filled : Text.digitsValue digits ≠ 0 := Nat.ne_of_gt positive
      simp [filled]

theorem request_reached (realm : challenge.realm? = some web.text)
    (short : ∀ digits ∈ web.port, digits.length ≤ Text.digitLimit)
    (credentials : Headers) :
    (Dialer.http.endpoint (challenge.reached web.uri)).requests
        (some ((challenge.reached web.uri).line "GET".toList)) credentials .none =
      [.send "GET".toList (web.tokenUrl challenge.query) credentials none] := by
  have filled := path_ne_nil (target_of_web realm short)
  have words : ¬(challenge.reached web.uri).HasSpace := by
    rw [hasSpace_reached_iff]
    rintro (path | query)
    · exact absurd (List.all_eq_true.mp web.path_valid ' ' path) (by decide)
    · have query_eq : web.uri.query = web.query.getD [] := rfl
      rw [query_eq] at query
      cases given : web.query with
      | none => simp [given] at query
      | some text =>
          rw [given] at query
          exact absurd (List.all_eq_true.mp (web.query_valid text given) ' ' query) (by decide)
  have read := RealmTarget.parse_text filled words
  rw [← RealmTarget.line_eq_text filled] at read
  rw [endpoint_reached short, Endpoint.requests, read, ← url_reached]
  rfl

end Challenge

namespace Authenticator

/-- A realm that is a URI of the web is sent one request for a token, without content, at the URL of
that URI, once there are credentials for it. -/
theorem contacts_of_web_realm (format : TokenFormat) (fallback realmAuth : Authenticator)
    (headers : Headers) (network : Network) (challenge : Challenge) (web : WebUri)
    (search : (Challenge.findBearer headers).2 = some challenge)
    (realm : challenge.realm? = some web.text)
    (short : ∀ digits ∈ web.port, digits.length ≤ Text.digitLimit) :
    contacts ((bearer .http format fallback realmAuth).answer headers) network =
      match result (realmAuth.answer .empty) network with
      | .ok credentials =>
          [.send "GET".toList (web.tokenUrl challenge.query) credentials none]
      | .error _ => [] := by
  have accepted := Challenge.target_of_web realm short
  have exchanged := bearer_exchanges .http format fallback realmAuth network search accepted
  rw [exchanged.contacts_eq, contacts_fetch .http format (realmAuth.silent_leaf .empty),
    ← answer_empty]
  cases result (realmAuth.answer .empty) network with
  | error failure => rfl
  | ok credentials => exact Challenge.request_reached realm short credentials

/-- A URI with user information, an address, a padded port, a query and a fragment. -/
def addressUri : WebUri where
  secure := true
  scheme := "HTTPS".toList
  scheme_eq := by decide
  user := some "u:p".toList
  user_valid := by rintro _ ⟨⟩; decide
  host := .address "2001:DB8::1".toList
    (@Address.Form.gap ["2001".toList, "DB8".toList] ["1".toList] 1 (by decide)
      (.group (by decide) .nil) (by decide))
  port := some "08443".toList
  port_valid := by rintro _ ⟨⟩; decide
  path := "/t".toList
  path_rooted := .inr rfl
  path_valid := by decide
  query := some "a=b".toList
  query_valid := by rintro _ ⟨⟩; decide
  fragment := some ['f']
  fragment_valid := by rintro _ ⟨⟩; decide

theorem contacts_of_address_realm :
    let value : Text :=
      "Bearer realm=\"HTTPS://u:p@[2001:DB8::1]:08443/t?a=b#f\",service=\"x y\"".toList
    let authenticator := bearer .http (.json "token".toList 900) anonymous anonymous
    contacts (authenticator.answer (.single "WWW-Authenticate".toList value)) {} =
      [.send "GET".toList "https://[2001:db8::1]:8443/t?a=b&service=x%20y".toList .empty none] := by
  intro value authenticator
  let challenge : Challenge :=
    ⟨"Bearer".toList, [("realm".toList, addressUri.text), ("service".toList, "x y".toList)]⟩
  have search : (Challenge.findBearer (.single "WWW-Authenticate".toList value)).2 =
      some challenge := rfl
  have realm : challenge.realm? = some addressUri.text := rfl
  have short : ∀ digits ∈ addressUri.port, digits.length ≤ Text.digitLimit := by decide
  have forwarded_eq : challenge.query = "service=x%20y".toList := rfl
  have url_eq : addressUri.tokenUrl "service=x%20y".toList =
      "https://[2001:db8::1]:8443/t?a=b&service=x%20y".toList := by decide
  rw [← url_eq, ← forwarded_eq]
  exact contacts_of_web_realm (.json "token".toList 900) anonymous anonymous _ {} challenge
    addressUri search realm short

/-- The digits of a port with too many zeros in front. -/
@[irreducible]
def paddedDigits : Text :=
  List.replicate 4299 '0' ++ "80".toList

theorem all_isDigit_paddedDigits : paddedDigits.all Char.isDigit = true := by
  rw [paddedDigits, List.all_append, List.all_replicate]
  rfl

theorem digitsValue_paddedDigits : Text.digitsValue paddedDigits = 80 := by
  rw [paddedDigits]
  exact Text.digitsValue_zeros_append 4299 "80".toList

theorem length_paddedDigits : Text.digitLimit < paddedDigits.length := by
  rw [paddedDigits, List.length_append, List.length_replicate]
  decide

/-- A URI with so many digits in its port. -/
def paddedUri : WebUri where
  secure := true
  scheme := "https".toList
  scheme_eq := by decide
  host := .name ['h'] (by decide) (by decide)
  port := some paddedDigits
  port_valid := by
    rintro _ ⟨⟩
    rw [digitsValue_paddedDigits]
    exact ⟨all_isDigit_paddedDigits, by decide, by decide⟩
  path := "/t".toList
  path_rooted := .inr rfl
  path_valid := by decide

/-- A port of a URI of the web is refused when it is padded with too many zeros, and nobody is
contacted. -/
theorem no_contact_for_padded_port :
    let challenge : Challenge := ⟨"Bearer".toList, [("realm".toList, paddedUri.text)]⟩
    let headers : Headers := .single Challenge.headerName challenge.canonical
    (Challenge.findBearer headers).2 = some challenge ∧
      challenge.realm? = some paddedUri.text ∧ paddedUri.portNumber = 80 ∧
      challenge.target = .error (.port paddedUri.text) ∧
      contacts ((bearer .http (.json "token".toList 900) anonymous anonymous).answer headers) {} =
        [] := by
  intro challenge headers
  have word : Text.Word "Bearer".toList := Challenge.word_of_isToken (by decide)
  have search : (Challenge.findBearer headers).2 = some challenge := by
    refine Challenge.findBearer_canonical word rfl ?_
    intro param member
    obtain rfl := List.mem_singleton.mp member
    exact (rfl : Challenge.isToken "realm".toList = true)
  have realm : challenge.realm? = some paddedUri.text := rfl
  have refused := Challenge.target_of_long_port realm rfl length_paddedDigits
  have handed : HandsOn headers := by
    intro other found
    obtain rfl := Option.some.inj (search.symm.trans found)
    exact ⟨_, refused, nofun⟩
  have answered := logsThen_leaf handed
    (bearer .http (.json "token".toList 900) anonymous anonymous) {}
  refine ⟨search, realm, digitsValue_paddedDigits, refused, ?_⟩
  rw [answered.contacts_eq, (silent_leaf _ _).contacts_eq_nil]

end Authenticator
end HttpAuth
