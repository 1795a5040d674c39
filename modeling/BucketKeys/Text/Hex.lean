import BucketKeys.Text.Utf8

/-!
Bytes written as pairs of hexadecimal digits.
-/

namespace BucketKeys.Text

def lowerHexDigit (value : Nat) : Char :=
  Char.ofNat (if value < 10 then 48 + value else 87 + value)

def upperHexDigit (value : Nat) : Char :=
  Char.ofNat (if value < 10 then 48 + value else 55 + value)

def hexValue? (c : Char) : Option Nat :=
  let code := c.toNat
  if 48 ≤ code ∧ code ≤ 57 then some (code - 48)
  else if 97 ≤ code ∧ code ≤ 102 then some (code - 87)
  else if 65 ≤ code ∧ code ≤ 70 then some (code - 55)
  else none

theorem hexValue?_lowerHexDigit {value : Nat} (h : value < 16) :
    hexValue? (lowerHexDigit value) = some value := by
  have hall : ∀ v < 16, hexValue? (lowerHexDigit v) = some v := by decide
  exact hall value h

theorem hexValue?_upperHexDigit {value : Nat} (h : value < 16) :
    hexValue? (upperHexDigit value) = some value := by
  have hall : ∀ v < 16, hexValue? (upperHexDigit v) = some v := by decide
  exact hall value h

def hexByte (byte : UInt8) : List Char :=
  [lowerHexDigit (byte.toNat / 16), lowerHexDigit (byte.toNat % 16)]

def hex (bytes : Bytes) : String :=
  String.ofList (bytes.flatMap hexByte)

def ofHexChars? : List Char → Option Bytes
  | [] => some []
  | [_] => none
  | high :: low :: rest => do
    let high ← hexValue? high
    let low ← hexValue? low
    let rest ← ofHexChars? rest
    return UInt8.ofNat (high * 16 + low) :: rest

def ofHex? (text : String) : Option Bytes :=
  ofHexChars? text.toList

end BucketKeys.Text
