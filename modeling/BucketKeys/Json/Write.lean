import BucketKeys.Json.Basic
import BucketKeys.Number.Shortest
import BucketKeys.Text.Hex

/-!
Writing JSON text without spaces. Controls, quotes and backslashes are escaped, and besides them
the characters of a set that the receiver asks for.
-/

namespace BucketKeys.Json.Write

def unitEscape (c : Char) : List Char :=
  let code := c.toNat
  ['\\', 'u', Text.lowerHexDigit (code / 4096 % 16), Text.lowerHexDigit (code / 256 % 16),
    Text.lowerHexDigit (code / 16 % 16), Text.lowerHexDigit (code % 16)]

def escape (also : Char → Bool) (c : Char) : List Char :=
  if c = '"' then ['\\', '"']
  else if c = '\\' then ['\\', '\\']
  else if c = '\n' then ['\\', 'n']
  else if c = '\r' then ['\\', 'r']
  else if c = '\t' then ['\\', 't']
  else if c = '\x08' then ['\\', 'b']
  else if c = '\x0c' then ['\\', 'f']
  else if c.toNat < 0x20 || also c then unitEscape c
  else [c]

def stringChars (also : Char → Bool) (text : String) : List Char :=
  '"' :: text.toList.flatMap (escape also) ++ ['"']

/-- A double is told from a whole number by its point or exponent. -/
def doubleChars (bits : UInt64) : List Char :=
  match Number.Binary.ofBits? bits with
  | none => ['n', 'u', 'l', 'l']
  | some x =>
    let decimal := Number.Decimal.shortest x
    let sign := if Number.isNegative bits then ['-'] else []
    if -20 ≤ decimal.exponent ∧ decimal.exponent ≤ 20 then
      let chars := Number.Decimal.positional decimal
      sign ++ if chars.contains '.' then chars else chars ++ ['.', '0']
    else sign ++ Text.decimalChars decimal.digits ++ 'e' :: Text.integerChars decimal.exponent

def numberChars : Number → List Char
  | .whole value => Text.integerChars value
  | .double bits => doubleChars bits

mutual

def valueChars (also : Char → Bool) : Json → List Char
  | .null => ['n', 'u', 'l', 'l']
  | .bool true => ['t', 'r', 'u', 'e']
  | .bool false => ['f', 'a', 'l', 's', 'e']
  | .number value => numberChars value
  | .string text => stringChars also text
  | .array items => '[' :: itemsChars also items
  | .object members => '\x7b' :: membersChars also members
  | .unreadable => ['n', 'u', 'l', 'l']

def itemsChars (also : Char → Bool) : List Json → List Char
  | [] => [']']
  | [item] => valueChars also item ++ [']']
  | item :: rest => valueChars also item ++ ',' :: itemsChars also rest

def membersChars (also : Char → Bool) : List (String × Json) → List Char
  | [] => ['\x7d']
  | [(name, value)] => stringChars also name ++ ':' :: valueChars also value ++ ['\x7d']
  | (name, value) :: rest =>
    stringChars also name ++ ':' :: valueChars also value ++ ',' :: membersChars also rest

end

end Write

def writeWith (also : Char → Bool) (value : Json) : String :=
  String.ofList (Write.valueChars also value)

def write (value : Json) : String :=
  value.writeWith fun _ => false

end BucketKeys.Json
