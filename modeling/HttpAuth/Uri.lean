import HttpAuth.Address
import HttpAuth.Text.Case
import HttpAuth.Text.Digit
import HttpAuth.Text.Quoted

/-!
# Splitting a URI

The scheme, authority, path and query of a URI, and the host and port of an authority.  Any text
can be split unless its authority has brackets that enclose no address, or characters that turn
into delimiters when the authority is normalised.
-/

namespace HttpAuth

/-- The parts of a URI; the fragment is left out. -/
structure Uri where
  /-- The scheme in small letters, empty when there is none. -/
  scheme : Text
  /-- What stands between two slashes and the path. -/
  authority : Text
  /-- The path. -/
  path : Text
  /-- The query, empty when there is none. -/
  query : Text
  deriving Repr, DecidableEq

namespace Uri

/-- Why a text cannot be split. -/
inductive Error where
  /-- Brackets do not enclose the whole host. -/
  | brackets
  /-- A bracketed host of a future version is malformed. -/
  | future
  /-- A bracketed host is no address. -/
  | address (host : Text)
  /-- A bracketed host is an address of version 4. -/
  | version4
  /-- The authority holds a character that stands for a delimiter. -/
  | confusable (authority : Text)
  deriving Repr, DecidableEq

/-- The wording of an error. -/
def Error.message : Error → String
  | .brackets => "Invalid IPv6 URL"
  | .future => "IPvFuture address is invalid"
  | .address host =>
      String.ofList (Text.quoted host) ++ " does not appear to be an IPv4 or IPv6 address"
  | .version4 => "An IPv4 address cannot be in brackets"
  | .confusable authority =>
      "netloc '" ++ String.ofList authority
        ++ "' contains invalid characters under NFKC normalization"

/-- Code points whose compatibility decomposition holds a delimiter of an authority. -/
def confusables : List Nat :=
  [
    0x2047, 0x2048, 0x2049, 0x2100, 0x2101, 0x2105, 0x2106, 0x2A74, 0xFE13, 0xFE16, 0xFE55,
    0xFE56, 0xFE5F, 0xFE6B, 0xFF03, 0xFF0F, 0xFF1A, 0xFF1F, 0xFF20
  ]

/-- The character may stand in a scheme. -/
def isSchemeChar (c : Char) : Bool :=
  c.isAlphanum || c == '+' || c == '-' || c == '.'

/-- The character ends an authority. -/
def endsAuthority (c : Char) : Bool :=
  c == '/' || c == '?' || c == '#'

/-- The host of a bracketed future version is well formed. -/
def isFuture (host : Text) : Bool :=
  match Text.cut '.' (host.drop 1) with
  | (digits, some rest) =>
      !digits.isEmpty && digits.all (fun c => (Hex.value? c).isSome) && !rest.isEmpty
  | (_, none) => false

/-- What follows the user information. -/
def hostPart (authority : Text) : Text :=
  Text.afterLast '@' authority

/-- Check the host of an authority that has brackets. -/
def checkHost (host : Text) : Except Error Unit :=
  if host.head? = some 'v' then
    if isFuture host then .ok () else .error .future
  else if Address.isVersion4 host then .error .version4
  else if Address.isVersion6 host then .ok ()
  else .error (.address host)

/-- Check the brackets of an authority. -/
def checkBrackets (authority : Text) : Except Error Unit :=
  match authority.contains '[', authority.contains ']' with
  | false, false => .ok ()
  | true, true =>
      match Text.cut '[' (hostPart authority) with
      | (before, some bracketed) =>
          let (host, after) := Text.cut ']' bracketed
          let after := after.getD []
          if !before.isEmpty || (!after.isEmpty && after.head? != some ':') then
            .error .brackets
          else
            checkHost host
      | (whole, none) => checkHost (Text.cut ':' whole).1
  | _, _ => .error .brackets

/-- Check that no character of an authority stands for a delimiter. -/
def checkConfusables (authority : Text) : Except Error Unit :=
  if authority.any fun c => confusables.contains c.toNat then
    .error (.confusable authority)
  else
    .ok ()

/-- Cut the scheme off a text. -/
def cutScheme (text : Text) : Text × Text :=
  match Text.cut ':' text with
  | (scheme, some rest) =>
      if (scheme.head?.map Char.isAlpha).getD false && scheme.all isSchemeChar then
        (Text.lower scheme, rest)
      else
        ([], text)
  | (_, none) => ([], text)

/-- Cut the authority off what follows a scheme. -/
def cutAuthority (text : Text) : Text × Text :=
  if text.take 2 = ['/', '/'] then
    ((text.drop 2).takeWhile (!endsAuthority ·), (text.drop 2).dropWhile (!endsAuthority ·))
  else
    ([], text)

/-- Drop control characters and spaces at the start, and tabs and line ends everywhere. -/
def cleaned (text : Text) : Text :=
  (text.dropWhile fun c => c.toNat ≤ 0x20).filter fun c => c != '\t' && c != '\r' && c != '\n'

/-- Split a URI. -/
def split (text : Text) : Except Error Uri := do
  let (scheme, afterScheme) := cutScheme (cleaned text)
  let (authority, tail) := cutAuthority afterScheme
  checkBrackets authority
  checkConfusables authority
  let (path, query) := Text.cut '?' (Text.cut '#' tail).1
  return { scheme, authority, path, query := query.getD [] }

/-- The host in an authority, as it is written. -/
def rawHost (uri : Uri) : Text :=
  match Text.cut '[' (hostPart uri.authority) with
  | (_, some bracketed) => (Text.cut ']' bracketed).1
  | (whole, none) => (Text.cut ':' whole).1

/-- The host in small letters; the zone of an address keeps its letters. -/
def host (uri : Uri) : Text :=
  match Text.cut '%' uri.rawHost with
  | (name, some zone) => Text.lower name ++ '%' :: zone
  | (name, none) => Text.lower name

/-- What an authority says about the port. -/
inductive Port where
  /-- It names none. -/
  | absent
  /-- It names this one. -/
  | number (value : Nat)
  /-- It names something that is no port. -/
  | invalid
  deriving Repr, DecidableEq

/-- The text of the port. -/
def portText (uri : Uri) : Text :=
  match Text.cut '[' (hostPart uri.authority) with
  | (_, some bracketed) => (Text.cut ':' ((Text.cut ']' bracketed).2.getD [])).2.getD []
  | (whole, none) => (Text.cut ':' whole).2.getD []

/-- The text writes the number of a port; zeros at its start count as digits. -/
def isPortNumber (text : Text) : Bool :=
  text.all Char.isDigit && text.length ≤ Text.digitLimit && Text.digitsValue text ≤ 65535

/-- The port. -/
def port (uri : Uri) : Port :=
  let text := uri.portText
  if text.isEmpty then .absent
  else if isPortNumber text then .number (Text.digitsValue text)
  else .invalid

end Uri
end HttpAuth
