import BucketKeys.Text.Hex
import BucketKeys.Text.Mark
import BucketKeys.Text.Printable
import BucketKeys.Text.Utf8

/-!
A text in double quotes for display. Quotes and backslashes are escaped, unprintable characters
are written by code, and a stray byte by its two hexadecimal digits.
-/

namespace BucketKeys.Text.Quoted

def hexDigits (value : Nat) : List Char :=
  if value < 16 then [lowerHexDigit value]
  else hexDigits (value / 16) ++ [lowerHexDigit (value % 16)]

def escape (c : Char) : List Char :=
  if c = '\x00' then ['\\', '0']
  else if c = '\t' then ['\\', 't']
  else if c = '\r' then ['\\', 'r']
  else if c = '\n' then ['\\', 'n']
  else if c = '"' ∨ c = '\\' then ['\\', c]
  else if extendsGrapheme c || !isPrintable c then
    ['\\', 'u', '\x7b'] ++ hexDigits c.toNat ++ ['\x7d']
  else [c]

def escapeGlyph : Glyph → List Char
  | .char c => escape c
  | .stray byte =>
    ['\\', 'x', upperHexDigit (byte.toNat / 16), upperHexDigit (byte.toNat % 16)]

def ofGlyphs (glyphs : List Glyph) : String :=
  String.ofList ('"' :: glyphs.flatMap escapeGlyph ++ ['"'])

def ofString (text : String) : String :=
  ofGlyphs (text.toList.map Glyph.char)

end BucketKeys.Text.Quoted
