import HttpAuth.Json.Basic
import HttpAuth.Literal
import HttpAuth.Settings.Basic
import HttpAuth.Settings.Issue
import HttpAuth.Text.Blank

/-!
# Settings from loosely typed values

A setting may be given as a value of another type that stands for the right one: a number as a
text, a truth value as a number or a word.  All issues of all fields are reported, in the order of
the fields; unknown fields are ignored.
-/

namespace HttpAuth

namespace Validation

/-- A character that is dropped around a number in a text. -/
def isPadding (c : Char) : Bool :=
  Text.isBlank c && !(0x1C ≤ c.toNat && c.toNat ≤ 0x1F)

/-- A text without padding at either end. -/
def unpadded (text : Text) : Text :=
  ((text.dropWhile isPadding).reverse.dropWhile isPadding).reverse

/-- A text without its underscores; none when it has no underscore, or has one at an end or next to
another. -/
def withoutUnderscores? (text : Text) : Option Text :=
  let parts := Text.pieces '_' text
  if parts.length > 1 ∧ parts.all (!·.isEmpty) then some parts.flatten else none

/-- Read a plain integer: an optional minus sign and digits without a superfluous zero.  One that is
too long is told even when something else follows its digits. -/
def plainInteger (text : Text) : Except FieldFault Int :=
  let negative := text.head? == some '-'
  let body := if negative then text.drop 1 else text
  let digits := body.takeWhile Char.isDigit
  if digits.isEmpty ∨ (digits.head? = some '0' ∧ digits.length > 1) then
    .error .integerText
  else if digits.length > Text.digitLimit then
    .error .integerSize
  else if digits.length < body.length then
    .error .integerText
  else
    let magnitude : Int := Text.digitsValue digits
    .ok (if negative then -magnitude else magnitude)

/-- Drop superfluous zeros at the start, and underscores among them, up to a digit or a minus sign.
The last of them is kept before a point and at the end. -/
def dropLeadingZeros : Text → Option Text
  | '0' :: rest =>
      let zeros := rest.takeWhile fun c => c == '0' || c == '_'
      match rest.drop zeros.length with
      | [] => some [(('0' :: zeros).getLast?).getD '0']
      | '.' :: tail => some ((('0' :: zeros).getLast?).getD '0' :: '.' :: tail)
      | c :: tail => if c.isDigit || c == '-' then some (c :: tail) else none
  | c :: rest => if c.isDigit then some (c :: rest) else none
  | [] => none

/-- Drop a fraction of zeros. -/
def dropZeroFraction (text : Text) : Text :=
  match Text.cut '.' text with
  | (whole, some fraction) =>
      if !fraction.isEmpty && fraction.all (· == '0') then whole else text
  | (whole, none) => whole

/-- Drop superfluous zeros, a fraction of zeros and the underscores between digits. -/
def shortened? (text : Text) : Option Text := do
  let body := dropZeroFraction (← dropLeadingZeros text)
  return (withoutUnderscores? body).getD body

/-- The plain integer behind padding, a sign, superfluous zeros, a fraction of zeros and
underscores. -/
def simplified? (text : Text) : Option Text :=
  match unpadded text with
  | '+' :: rest => shortened? rest
  | '-' :: rest => (shortened? rest).map ('-' :: ·)
  | rest => shortened? rest

/-- Read an integer from a text; only a text that is written plainly can be too long. -/
def integerOfText (text : Text) : Except FieldFault Int :=
  match plainInteger text, (simplified? text).map plainInteger with
  | .error .integerText, some (.ok value) => .ok value
  | .error .integerText, _ => .error .integerText
  | result, _ => result

/-- The integers of 64 bits. -/
def isWord (value : Int) : Bool :=
  -Int.pow 2 63 ≤ value && value < Int.pow 2 63

/-- Take a floating-point number as an integer. -/
def integerOfDecimal (value : Binary64) : Except FieldFault Int :=
  match value with
  | .finite _ _ _ =>
      match value.toInt? with
      | some number =>
          if isWord number ∧ number ≠ -Int.pow 2 63 then .ok number else .error .integerSize
      | none => .error .fractional
  | _ => .error .notFinite

/-- Take a value as an integer. -/
def integer : Json → Except FieldFault Int
  | .integer value => .ok value
  | .bool value => .ok (if value then 1 else 0)
  | .string codes => integerOfText (CodePoints.toText codes)
  | .decimal value => integerOfDecimal value
  | _ => .error .notInteger

/-- Read a number from a text, which may have padding or underscores and not both. -/
def numberOfText (text : Text) : Except FieldFault Binary64 :=
  let read (text : Text) : Option Binary64 :=
    Literal.unsigned? (Literal.signed text).1 (Literal.signed text).2
  match read (unpadded text) <|> (withoutUnderscores? text).bind read with
  | some value => .ok value
  | none => .error .numberText

/-- Take a value as a number; an integer beyond the range of numbers is none. -/
def number : Json → Except FieldFault Binary64
  | .decimal value => .ok value
  | .integer value =>
      match Binary64.ofInt value with
      | .infinite _ => .error .notNumber
      | result => .ok result
  | .bool value => .ok (.ofInt (if value then 1 else 0))
  | .string codes => numberOfText (CodePoints.toText codes)
  | _ => .error .notNumber

/-- The words for true. -/
def trueWords : List Text :=
  ["1", "t", "y", "on", "yes", "true"].map String.toList

/-- The words for false. -/
def falseWords : List Text :=
  ["0", "f", "n", "no", "off", "false"].map String.toList

/-- Take an integer as a truth value. -/
def flagOfInteger (value : Int) : Except FieldFault Bool :=
  if value = 0 then .ok false
  else if value = 1 then .ok true
  else .error .flagText

/-- Take a value as a truth value. -/
def flag : Json → Except FieldFault Bool
  | .bool value => .ok value
  | .integer value => if isWord value then flagOfInteger value else .error .notFlag
  | .decimal value =>
      match integerOfDecimal value with
      | .ok number => flagOfInteger number
      | .error _ => .error .notFlag
  | .string codes =>
      let word := (CodePoints.toText codes).map Char.toLower
      if trueWords.contains word then .ok true
      else if falseWords.contains word then .ok false
      else .error .flagText
  | _ => .error .notFlag

/-- Check the host of a proxy. -/
def host : Json → Except FieldFault Text
  | .string codes => if codes.isEmpty then .error .emptyText else .ok (CodePoints.toText codes)
  | _ => .error .notText

/-- Check the number of a port. -/
def portNumber (value : Int) : Except FieldFault Int :=
  if value < 1 then .error (.below 1)
  else if value > 65535 then .error (.above 65535)
  else .ok value

/-- Check the port of a proxy. -/
def port (value : Json) : Except FieldFault Int := do
  portNumber (← integer value)

/-- Check a number of seconds. -/
def seconds (value : Binary64) : Except FieldFault Binary64 :=
  if value.isNonnegative then .ok value else .error (.below 0)

/-- Check a timeout. -/
def timeout (value : Json) : Except FieldFault Binary64 := do
  seconds (← number value)

/-- The issues of a result at a path. -/
def issuesAt {α : Type} (path : List String) : Except FieldFault α → List Issue
  | .ok _ => []
  | .error fault => [⟨fault, path⟩]

/-- Check a field that must be given. -/
def required {α : Type} (check : Json → Except FieldFault α) : Option Json → Except FieldFault α
  | some value => check value
  | none => .error .missing

/-- Check a field that may be left out. -/
def optional {α : Type} (default : α) (check : Json → Except FieldFault α) :
    Option Json → Except FieldFault α
  | some value => check value
  | none => .ok default

/-- Put the results for a proxy together, with the path to the proxy before every field. -/
def proxyOf (path : List String) (host : Except FieldFault Text) (port : Except FieldFault Int)
    (secure : Except FieldFault Bool) : Except (List Issue) ProxySettings :=
  match host, port, secure with
  | .ok host, .ok port, .ok secure => .ok { host, port, secure }
  | host, port, secure =>
      .error (issuesAt (path ++ ["host"]) host ++ issuesAt (path ++ ["port"]) port ++
        issuesAt (path ++ ["secure"]) secure)

/-- Check the fields of a proxy. -/
def proxy (path : List String) (value : Json) : Except (List Issue) ProxySettings :=
  proxyOf path (required host (value.member? "host".toList))
    (required port (value.member? "port".toList))
    (optional false flag (value.member? "secure".toList))

/-- Check a proxy that may be absent. -/
def optionalProxy : Option Json → Except (List Issue) (Option ProxySettings)
  | none | some .null => .ok none
  | some (.object members) => (proxy ["proxy"] (.object members)).map some
  | some _ => .error [⟨.notGroup, ["proxy"]⟩]

/-- The issues of a proxy. -/
def proxyIssues : Except (List Issue) (Option ProxySettings) → List Issue
  | .ok _ => []
  | .error issues => issues

/-- Put the results for a client together. -/
def settingsOf (proxy : Except (List Issue) (Option ProxySettings))
    (trustAll followRedirects : Except FieldFault Bool)
    (connectTimeout idleTimeout : Except FieldFault Binary64) : Except Invalid Settings :=
  match proxy, trustAll, followRedirects, connectTimeout, idleTimeout with
  | .ok proxy, .ok trustAll, .ok followRedirects, .ok connectTimeout, .ok idleTimeout =>
      .ok { proxy, trustAll, followRedirects, connectTimeout, idleTimeout }
  | proxy, trustAll, followRedirects, connectTimeout, idleTimeout =>
      .error
        { group := .client
          issues := proxyIssues proxy ++ issuesAt ["trust_all"] trustAll ++
            issuesAt ["follow_redirects"] followRedirects ++
            issuesAt ["connect_timeout"] connectTimeout ++
            issuesAt ["idle_timeout"] idleTimeout }

end Validation

/-- The settings of a proxy that a value gives. -/
def ProxySettings.ofJson (value : Json) : Except Invalid ProxySettings :=
  (Validation.proxy [] value).mapError fun issues => { group := .proxy, issues }

namespace Settings

/-- The settings of a client that a value gives. -/
def ofJson (value : Json) : Except Invalid Settings :=
  let standard : Settings := {}
  Validation.settingsOf
    (Validation.optionalProxy (value.member? "proxy".toList))
    (Validation.optional standard.trustAll Validation.flag (value.member? "trust_all".toList))
    (Validation.optional standard.followRedirects Validation.flag
      (value.member? "follow_redirects".toList))
    (Validation.optional standard.connectTimeout Validation.timeout
      (value.member? "connect_timeout".toList))
    (Validation.optional standard.idleTimeout Validation.timeout
      (value.member? "idle_timeout".toList))

/-- The refusal of a change to a field: settings do not change once they are made. -/
def change (_ : Settings) (field : String) : Invalid :=
  { group := .client, issues := [⟨.frozen, [field]⟩] }

end Settings
end HttpAuth
