import HttpAuth.Proofs.Ascii
import HttpAuth.Settings.Environment

/-!
# What settings depend on

Seven variables set a client, each by what stands between the blanks at its ends.  Settings that are
given have exactly the values that are written there or their standard values, and they are given
when all these values can be read and lie in their ranges.  The port and the scheme of a proxy
count only when its host is set.
-/

namespace HttpAuth
namespace Environment

open Text

/-- The variables that are looked at, without the beginning of their names. -/
def variableNames : List String :=
  ["PROXY_HOST", "PROXY_PORT", "PROXY_SECURE", "TRUST_ALL", "FOLLOW_REDIRECTS", "CONNECT_TIMEOUT",
    "IDLE_TIMEOUT"]

/-- The variables that count only when a proxy is set. -/
def proxyDetails : List String :=
  ["PROXY_PORT", "PROXY_SECURE"]

/-- The value of a variable without the blanks at its ends; that of a missing variable is empty. -/
def content (environment : Environment) (start : Text) (name : String) : Text :=
  trim ((environment.value? (start ++ name.toList)).getD [])

/-! ## What is written -/

/-- A text that gives a value: without a text the value is the standard one. -/
inductive Given {α : Type} (standard : α) (writes : Text → α → Prop) : Text → α → Prop where
  /-- Nothing is written. -/
  | blank : Given standard writes [] standard
  /-- The value is written. -/
  | written {text : Text} {value : α} (filled : text ≠ []) (written : writes text value) :
      Given standard writes text value

/-- A word sets a flag, and any other text clears it. -/
def WritesFlag (text : Text) (flag : Bool) : Prop :=
  flag = true ↔ lower text ∈ ["1", "true", "yes", "on"].map String.toList

/-- The text writes a port as an integer. -/
def WritesPort (text : Text) (port : Int) : Prop :=
  Literal.integer text = .ok port

/-- The text writes a timeout that is not negative. -/
def WritesTimeout (text : Text) (seconds : Binary64) : Prop :=
  Literal.binary64? text = some seconds ∧ seconds.isNonnegative = true

/-- The variables give a proxy, or none. -/
inductive GivesProxy (environment : Environment) (start : Text) : Option ProxySettings → Prop where
  /-- Without a host there is no proxy. -/
  | none (blank : environment.content start "PROXY_HOST" = []) : GivesProxy environment start none
  /-- With a host there is a proxy, with a port in the range of ports. -/
  | some {proxy : ProxySettings} (filled : proxy.host ≠ [])
      (host : proxy.host = environment.content start "PROXY_HOST")
      (port : Given 8080 WritesPort (environment.content start "PROXY_PORT") proxy.port)
      (in_range : 1 ≤ proxy.port ∧ proxy.port ≤ 65535)
      (secure : Given false WritesFlag (environment.content start "PROXY_SECURE") proxy.secure) :
      GivesProxy environment start (some proxy)

/-- The variables give the settings. -/
structure Gives (environment : Environment) (start : Text) (settings : Settings) : Prop where
  /-- The proxy. -/
  proxy : GivesProxy environment start settings.proxy
  /-- Certificates are verified unless the flag is set. -/
  trustAll : Given false WritesFlag (environment.content start "TRUST_ALL") settings.trustAll
  /-- Redirects are not followed unless the flag is set. -/
  followRedirects : Given false WritesFlag (environment.content start "FOLLOW_REDIRECTS")
    settings.followRedirects
  /-- Seconds to wait for a connection. -/
  connectTimeout : Given (.ofInt 15) WritesTimeout (environment.content start "CONNECT_TIMEOUT")
    settings.connectTimeout
  /-- Seconds to wait for anything else. -/
  idleTimeout : Given .zero WritesTimeout (environment.content start "IDLE_TIMEOUT")
    settings.idleTimeout

/-! ## What is looked at -/

variable {environment other : Environment} {start : Text}

theorem setting?_eq (environment : Environment) (start : Text) (name : String) :
    environment.setting? start name =
      if environment.content start name = [] then none
      else some (environment.content start name) := by
  rw [setting?, content]
  cases environment.value? (start ++ name.toList) with
  | none => rfl
  | some value => by_cases blank : trim value = [] <;> simp [Option.filter, blank]

theorem setting?_of_blank {name : String} (blank : environment.content start name = []) :
    environment.setting? start name = none := by
  rw [setting?_eq, if_pos blank]

theorem setting?_congr {name : String}
    (same : other.content start name = environment.content start name) :
    other.setting? start name = environment.setting? start name := by
  rw [setting?_eq, setting?_eq, same]

theorem proxy_of_blank (blank : environment.content start "PROXY_HOST" = []) :
    environment.proxy start = .ok none := by
  rw [proxy, setting?_of_blank blank]

theorem proxy_congr (host : other.content start "PROXY_HOST" = environment.content start "PROXY_HOST")
    (port : other.content start "PROXY_PORT" = environment.content start "PROXY_PORT")
    (secure : other.content start "PROXY_SECURE" = environment.content start "PROXY_SECURE") :
    other.proxy start = environment.proxy start := by
  rw [proxy, proxy, setting?_congr host, setting?_congr port, setting?_congr secure]

/-- The settings depend on the proxy and on four more variables. -/
theorem settings_congr (proxies : other.proxy start = environment.proxy start)
    (same : ∀ name ∈ ["TRUST_ALL", "FOLLOW_REDIRECTS", "CONNECT_TIMEOUT", "IDLE_TIMEOUT"],
      other.content start name = environment.content start name) :
    other.settings start = environment.settings start := by
  have read (name : String) (listed : name ∈ ["TRUST_ALL", "FOLLOW_REDIRECTS", "CONNECT_TIMEOUT",
      "IDLE_TIMEOUT"]) : other.setting? start name = environment.setting? start name :=
    setting?_congr (same name listed)
  simp only [settings, proxies, flag, timeout, read "TRUST_ALL" (by simp),
    read "FOLLOW_REDIRECTS" (by simp), read "CONNECT_TIMEOUT" (by simp),
    read "IDLE_TIMEOUT" (by simp)]

/-! ## What is read -/

theorem bind_eq_ok_iff {ε α β : Type} {outcome : Except ε α} {next : α → Except ε β} {value : β} :
    outcome >>= next = .ok value ↔ ∃ middle, outcome = .ok middle ∧ next middle = .ok value := by
  cases outcome <;> simp [bind, Except.bind]

/-- What is read from a setting is what its text gives. -/
theorem given_iff {α : Type} {standard : α} {writes : Text → α → Prop}
    (reads : Option Text → α → Prop) (absent : ∀ value, reads none value ↔ value = standard)
    (present : ∀ text value, reads (some text) value ↔ writes text value) (name : String)
    (value : α) :
    reads (environment.setting? start name) value ↔
      Given standard writes (environment.content start name) value := by
  rw [setting?_eq]
  generalize environment.content start name = text
  split
  · rename_i blank
    subst blank
    rw [absent]
    constructor
    · rintro rfl
      exact .blank
    · intro given
      cases given with
      | blank => rfl
      | written filled => exact absurd rfl filled
  · rename_i filled
    rw [present]
    constructor
    · exact .written filled
    · intro given
      cases given with
      | blank => exact absurd rfl filled
      | written _ written => exact written

theorem flag_eq_iff {name : String} {standard value : Bool} :
    environment.flag start name standard = value ↔
      Given standard WritesFlag (environment.content start name) value := by
  refine given_iff (fun text value => (text.map isTrue).getD standard = value) ?_ ?_ name value
  · exact fun value => eq_comm
  · intro text value
    have word : isTrue text = true ↔ lower text ∈ ["1", "true", "yes", "on"].map String.toList :=
      List.contains_iff_mem
    rw [WritesFlag, ← word, Option.map_some, Option.getD_some, Bool.eq_iff_iff]
    exact iff_comm

theorem readPort_eq_ok_iff {name : String} {port : Int} :
    readPort (environment.setting? start name) = .ok port ↔
      Given 8080 WritesPort (environment.content start name) port := by
  refine given_iff (fun text port => readPort text = .ok port) ?_ ?_ name port
  · intro port
    rw [readPort, Except.ok.injEq]
    exact eq_comm
  · intro text port
    rw [readPort, WritesPort]
    cases Literal.integer text with
    | ok value => simp
    | error fault => cases fault <;> simp

theorem seconds_eq_ok_iff {read seconds : Binary64} :
    Validation.seconds read = .ok seconds ↔ read.isNonnegative = true ∧ read = seconds := by
  rw [Validation.seconds]
  split
  · rename_i nonnegative
    simp [nonnegative]
  · rename_i negative
    simp [negative]

theorem timeout_eq_ok_iff {name : String} {standard seconds : Binary64}
    (valid : standard.isNonnegative = true) :
    (∃ read, environment.timeout start name standard = .ok read ∧
      Validation.seconds read = .ok seconds) ↔
      Given standard WritesTimeout (environment.content start name) seconds := by
  refine given_iff
    (fun text seconds => ∃ read, readTimeout standard text = .ok read ∧
      Validation.seconds read = .ok seconds) ?_ ?_ name seconds
  · intro seconds
    simp only [readTimeout, Except.ok.injEq, exists_eq_left', seconds_eq_ok_iff, valid, true_and]
    exact eq_comm
  · intro text seconds
    rw [WritesTimeout]
    cases literal : Literal.binary64? text with
    | none => simp [readTimeout, literal]
    | some value =>
        simp only [readTimeout, literal, seconds_eq_ok_iff, Except.ok.injEq, exists_eq_left',
          Option.some.injEq]
        constructor
        · rintro ⟨nonnegative, rfl⟩
          exact ⟨rfl, nonnegative⟩
        · rintro ⟨rfl, nonnegative⟩
          exact ⟨nonnegative, rfl⟩

theorem portNumber_eq_ok_iff {port checked : Int} :
    Validation.portNumber port = .ok checked ↔ (1 ≤ port ∧ port ≤ 65535) ∧ port = checked := by
  rw [Validation.portNumber]
  split
  · rename_i small
    exact ⟨nofun, fun valid => by omega⟩
  · split
    · rename_i large
      exact ⟨nofun, fun valid => by omega⟩
    · simp only [Except.ok.injEq]
      omega

/-- A proxy is made of a host, a port in the range of ports, and a flag. -/
theorem proxyOf_eq_ok_iff {host : Text} {port : Int} {secure : Bool} {proxy : ProxySettings} :
    Validation.proxyOf [] (.ok host) (Validation.portNumber port) (.ok secure) = .ok proxy ↔
      (1 ≤ port ∧ port ≤ 65535) ∧ proxy = { host, port, secure } := by
  cases checked : Validation.portNumber port with
  | ok value =>
      obtain ⟨in_range, rfl⟩ := portNumber_eq_ok_iff.mp checked
      simp [Validation.proxyOf, in_range, eq_comm]
  | error fault =>
      have outside : ¬(1 ≤ port ∧ port ≤ 65535) := by
        intro in_range
        rw [portNumber_eq_ok_iff.mpr ⟨in_range, rfl⟩] at checked
        cases checked
      simp [Validation.proxyOf, outside]

theorem proxy_eq_ok_iff {proxy : Option ProxySettings} :
    environment.proxy start = .ok proxy ↔ GivesProxy environment start proxy := by
  by_cases blank : environment.content start "PROXY_HOST" = []
  · rw [proxy_of_blank blank, Except.ok.injEq]
    constructor
    · rintro rfl
      exact .none blank
    · intro given
      cases given with
      | none => rfl
      | some filled host => exact absurd (host.trans blank) filled
  · have host_eq : environment.setting? start "PROXY_HOST" =
        some (environment.content start "PROXY_HOST") := by
      rw [setting?_eq, if_neg blank]
    have secure_iff {secure : Bool} : environment.flag start "PROXY_SECURE" false = secure ↔
        Given false WritesFlag (environment.content start "PROXY_SECURE") secure := flag_eq_iff
    rw [Environment.proxy, host_eq]
    simp only [bind_eq_ok_iff, readPort_eq_ok_iff]
    constructor
    · rintro ⟨port, port_given, made⟩
      split at made
      · rename_i found proxy_eq
        obtain ⟨in_range, rfl⟩ := proxyOf_eq_ok_iff.mp proxy_eq
        cases made
        exact .some blank rfl port_given in_range (secure_iff.mp rfl)
      · cases made
    · intro given
      cases given with
      | none absent => exact absurd absent blank
      | @some proxy filled host port in_range secure =>
          refine ⟨proxy.port, port, ?_⟩
          have secure_eq := secure_iff.mpr secure
          rw [flag] at secure_eq
          have made : Validation.proxyOf [] (.ok proxy.host) (Validation.portNumber proxy.port)
              (.ok proxy.secure) = .ok proxy := proxyOf_eq_ok_iff.mpr ⟨in_range, rfl⟩
          simp only [secure_eq, ← host, made]
          rfl

/-- Settings are made of their fields when the timeouts are not negative. -/
theorem settingsOf_eq_ok_iff {proxy : Option ProxySettings} {trustAll followRedirects : Bool}
    {connect idle : Except FieldFault Binary64} {settings : Settings} :
    Validation.settingsOf (.ok proxy) (.ok trustAll) (.ok followRedirects) connect idle =
        .ok settings ↔
      connect = .ok settings.connectTimeout ∧ idle = .ok settings.idleTimeout ∧
        settings.proxy = proxy ∧ settings.trustAll = trustAll ∧
        settings.followRedirects = followRedirects := by
  obtain ⟨_, _, _, _, _⟩ := settings
  cases connect with
  | error => simp [Validation.settingsOf]
  | ok connectTimeout =>
      cases idle with
      | error => simp [Validation.settingsOf]
      | ok idleTimeout =>
          simp only [Validation.settingsOf, Except.ok.injEq, Settings.mk.injEq]
          constructor
          · rintro ⟨rfl, rfl, rfl, rfl, rfl⟩
            exact ⟨rfl, rfl, rfl, rfl, rfl⟩
          · rintro ⟨rfl, rfl, rfl, rfl, rfl⟩
            exact ⟨rfl, rfl, rfl, rfl, rfl⟩

theorem settings_eq_ok_iff {settings : Settings} :
    environment.settings start = .ok settings ↔ Gives environment start settings := by
  have connect_valid : (Binary64.ofInt 15).isNonnegative = true := by decide +kernel
  rw [Environment.settings]
  simp only [bind_eq_ok_iff]
  constructor
  · rintro ⟨proxy, proxy_eq, connect, connect_eq, idle, idle_eq, made⟩
    split at made
    · rename_i found settings_eq
      cases made
      obtain ⟨connect_read, idle_read, rfl, trust_eq, follow_eq⟩ :=
        settingsOf_eq_ok_iff.mp settings_eq
      exact
        { proxy := proxy_eq_ok_iff.mp proxy_eq
          trustAll := flag_eq_iff.mp trust_eq.symm
          followRedirects := flag_eq_iff.mp follow_eq.symm
          connectTimeout :=
            (timeout_eq_ok_iff connect_valid).mp ⟨connect, connect_eq, connect_read⟩
          idleTimeout := (timeout_eq_ok_iff rfl).mp ⟨idle, idle_eq, idle_read⟩ }
    · cases made
  · intro given
    obtain ⟨connect, connect_eq, connect_read⟩ :=
      (timeout_eq_ok_iff connect_valid).mpr given.connectTimeout
    obtain ⟨idle, idle_eq, idle_read⟩ := (timeout_eq_ok_iff rfl).mpr given.idleTimeout
    refine ⟨settings.proxy, proxy_eq_ok_iff.mpr given.proxy, connect, connect_eq, idle, idle_eq, ?_⟩
    have made := settingsOf_eq_ok_iff.mpr ⟨connect_read, idle_read, rfl,
      (flag_eq_iff.mpr given.trustAll).symm, (flag_eq_iff.mpr given.followRedirects).symm⟩
    rw [made]
    rfl

/-! ## Ports in decimal -/

theorem asciiDigit_of_isDigit {c : Char} (digit : c.isDigit = true) : asciiDigit c = c := by
  have listed : ∀ code < 0x80, (Char.ofNat code).isDigit = true →
      asciiDigit (Char.ofNat code) = Char.ofNat code := by decide
  have bounds := isDigit_iff.mp digit
  exact forall_ascii (fun c => c.isDigit = true → asciiDigit c = c) listed (by omega) digit

theorem underscoresBetweenDigits_of_digits {digits : Text} (all : ∀ c ∈ digits, c.isDigit = true)
    (afterDigit : Bool) : Literal.underscoresBetweenDigits afterDigit digits = true := by
  induction digits generalizing afterDigit with
  | nil => rfl
  | cons c rest induction =>
      have other : c ≠ '_' := by
        rintro rfl
        exact absurd (all _ List.mem_cons_self) (by decide)
      rw [Literal.underscoresBetweenDigits, if_neg other]
      exact induction (fun d member => all d (List.mem_cons_of_mem c member)) _

theorem signed_of_digits {digits : Text} (all : ∀ c ∈ digits, c.isDigit = true) :
    Literal.signed digits = (false, digits) := by
  cases digits with
  | nil => rfl
  | cons c rest =>
      have digit := all c List.mem_cons_self
      rw [Literal.signed]
      · rintro rest ⟨rfl, rfl⟩
        exact absurd digit (by decide)
      · rintro rest ⟨rfl, rfl⟩
        exact absurd digit (by decide)

/-- A text of digits is read as the number that they write, unless it is too long. -/
theorem integer_of_digits {digits : Text} (filled : digits ≠ [])
    (all : ∀ c ∈ digits, c.isDigit = true) :
    Literal.integer digits =
      if digits.length > digitLimit then .error (.tooLong digits.length)
      else .ok (digitsValue digits) := by
  have ascii : digits.map asciiDigit = digits := by
    rw [List.map_congr_left fun c member => asciiDigit_of_isDigit (all c member), List.map_id']
  have front : digits.takeWhile (fun c => c.isDigit || c == '_') = digits := by
    have whole : (digits ++ []).takeWhile (fun c => c.isDigit || c == '_') = digits ++ [] :=
      List.takeWhile_append_of_pos fun c member => by rw [all c member, Bool.true_or]
    rwa [List.append_nil] at whole
  have kept : digits.filter (·.isDigit) = digits := List.filter_eq_self.mpr all
  have valid : ¬(digits.isEmpty = true ∨
      (!Literal.underscoresBetweenDigits false digits) = true) := by
    simp [filled, underscoresBetweenDigits_of_digits all]
  simp only [Literal.integer, ascii, signed_of_digits all, front, kept, if_neg valid, Nat.lt_irrefl,
    if_false, Bool.false_eq_true]

/-- A port that is written in decimal is read as that number. -/
theorem port_of_decimal {number : Nat} {port : Int}
    (given : Given 8080 WritesPort (Nat.toDigits 10 number) port) : port = number := by
  have filled : Nat.toDigits 10 number ≠ [] := Nat.toDigits_ne_nil
  have all : ∀ c ∈ Nat.toDigits 10 number, c.isDigit = true :=
    fun c member => Nat.isDigit_of_mem_toDigits (by decide) (by decide) member
  have value : digitsValue (Nat.toDigits 10 number) = number := by
    rw [digitsValue]
    simp only [Nat.mul_comm _ 10]
    exact Nat.ofDigitChars_ten_toDigits
  generalize Nat.toDigits 10 number = text at given filled all value
  cases given with
  | blank => exact absurd rfl filled
  | written _ read =>
      rw [WritesPort, integer_of_digits filled all] at read
      split at read
      · cases read
      · rw [← Except.ok.inj read, value]

/-! ## The settings of a client -/

/-- Settings depend only on what stands between the blanks of seven variables: environments that
have that in common give the same settings or the same error.  Without a host there is no proxy, and
the variables for its port and its scheme do not matter.  Settings are given exactly when every
value that counts can be read and is in its range, and they are the values that are written, or the
standard ones where nothing is written.  A port in decimal is the number that it writes. -/
theorem settings_depend_on_contents (environment : Environment) (start : Text) :
    (∀ other : Environment,
      (∀ name ∈ variableNames, other.content start name = environment.content start name) →
      other.settings start = environment.settings start) ∧
    (environment.content start "PROXY_HOST" = [] →
      (∀ other : Environment,
        (∀ name ∈ variableNames, name ∉ proxyDetails →
          other.content start name = environment.content start name) →
        other.settings start = environment.settings start) ∧
      ∀ settings, environment.settings start = .ok settings → settings.proxy = none) ∧
    (∀ settings, environment.settings start = .ok settings ↔ Gives environment start settings) ∧
    ∀ settings proxy (number : Nat), environment.settings start = .ok settings →
      settings.proxy = some proxy →
      environment.content start "PROXY_PORT" = Nat.toDigits 10 number → proxy.port = number := by
  refine ⟨fun other same => ?same, fun blank => ⟨fun other same => ?hostless, ?none⟩,
    fun settings => settings_eq_ok_iff, ?decimal⟩
  case same =>
    refine settings_congr (proxy_congr (same _ (by decide)) (same _ (by decide))
      (same _ (by decide))) fun name listed => same name ?_
    exact List.mem_of_mem_drop (i := 3) listed
  case hostless =>
    have other_blank := (same "PROXY_HOST" (by decide) (by decide)).trans blank
    refine settings_congr ((proxy_of_blank other_blank).trans (proxy_of_blank blank).symm) ?_
    intro name listed
    exact same name (List.mem_of_mem_drop (i := 3) listed) (by revert name; decide)
  case none =>
    intro settings given
    have proxy_given := (settings_eq_ok_iff.mp given).proxy
    generalize settings.proxy = proxy at proxy_given
    cases proxy_given with
    | none => rfl
    | some filled host => exact absurd (host.trans blank) filled
  case decimal =>
    intro settings proxy number given proxy_eq decimal
    have proxy_given := (settings_eq_ok_iff.mp given).proxy
    rw [proxy_eq] at proxy_given
    cases proxy_given with
    | some _ _ port =>
        rw [decimal] at port
        exact port_of_decimal port

/-- Blanks around values, a blank flag and a foreign variable do not matter, and neither does a port
that is no number when the host is blank. -/
theorem settings_depend_on_padded_contents :
    let start : Text := defaultStart
    let setting (name value : String) : Text × Text := (start ++ name.toList, value.toList)
    let plain : Environment := [setting "PROXY_HOST" "p", setting "PROXY_PORT" "80"]
    let padded : Environment :=
      [setting "PROXY_PORT" "\t80 ", ("HOME".toList, ['h']), setting "PROXY_HOST" " p\n",
        setting "TRUST_ALL" "\t"]
    let hostless : Environment := [setting "PROXY_HOST" " ", setting "PROXY_PORT" "x"]
    let proxy : ProxySettings := { host := ['p'], port := 80 }
    padded.settings start = plain.settings start ∧
      padded.settings start = .ok { proxy := some proxy } ∧
      Gives padded start { proxy := some proxy } ∧
      padded.content start "PROXY_PORT" = Nat.toDigits 10 80 ∧ proxy.port = (80 : Nat) ∧
      hostless.settings start = .ok {} ∧
      hostless.settings start = Environment.settings [] start := by
  intro start setting plain padded hostless proxy
  obtain ⟨same, -⟩ := settings_depend_on_contents plain start
  obtain ⟨-, -, gives, decimal⟩ := settings_depend_on_contents padded start
  obtain ⟨-, without_host, -⟩ := settings_depend_on_contents [] start
  have padded_eq : padded.settings start = plain.settings start := same padded (by decide)
  have given : padded.settings start = .ok { proxy := some proxy } := padded_eq.trans rfl
  have hostless_eq : hostless.settings start = Environment.settings [] start :=
    (without_host rfl).1 hostless (by decide)
  exact ⟨padded_eq, given, (gives _).mp given, rfl, decimal _ proxy 80 given rfl rfl,
    hostless_eq.trans rfl, hostless_eq⟩

end Environment
end HttpAuth
