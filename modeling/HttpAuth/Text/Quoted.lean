import HttpAuth.Text.HiddenData
import HttpAuth.Hex

/-!
# Quoted texts

The quotation of a text inside a message.  Single quotes enclose it unless it holds single quotes
and no double quote; the enclosing quote and the backslash are escaped, and a code point that is
not printed as itself is written by its number.
-/

namespace HttpAuth
namespace Text

/-- The code point is written as an escape. -/
def isHidden (code : Nat) : Bool :=
  if code < 0x7F then code < 0x20 else inRanges hiddenRanges code

/-- One character inside a quotation. -/
def quotedChar (quote c : Char) : Text :=
  if c = quote ∨ c = '\\' then ['\\', c]
  else if c = '\n' then ['\\', 'n']
  else if c = '\r' then ['\\', 'r']
  else if c = '\t' then ['\\', 't']
  else if isHidden c.toNat then
    if c.toNat < 0x100 then ['\\', 'x'] ++ Hex.digits 2 c.toNat
    else if c.toNat < 0x10000 then ['\\', 'u'] ++ Hex.digits 4 c.toNat
    else ['\\', 'U'] ++ Hex.digits 8 c.toNat
  else [c]

/-- The quote that encloses a text. -/
def enclosingQuote (text : Text) : Char :=
  if text.contains '\'' && !text.contains '"' then '"' else '\''

/-- The quotation of a text. -/
def quoted (text : Text) : Text :=
  let quote := enclosingQuote text
  quote :: text.flatMap (quotedChar quote) ++ [quote]

/-- The quotation of a text that may be absent. -/
def quotedOption : Option Text → Text
  | none => "None".toList
  | some text => quoted text

end Text
end HttpAuth
