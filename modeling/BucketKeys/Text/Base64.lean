import BucketKeys.Text.Utf8

/-!
Bytes in base 64 with the standard alphabet and padding. Only the canonical form is read: the
padding is complete and the bits behind the last byte are zero.
-/

namespace BucketKeys.Text.Base64

def digit (value : Nat) : Char :=
  Char.ofNat <|
    if value < 26 then 65 + value
    else if value < 52 then 71 + value
    else if value < 62 then value - 4
    else if value = 62 then 43
    else 47

def digitValue? (c : Char) : Option Nat :=
  let code := c.toNat
  if 65 ≤ code ∧ code ≤ 90 then some (code - 65)
  else if 97 ≤ code ∧ code ≤ 122 then some (code - 71)
  else if 48 ≤ code ∧ code ≤ 57 then some (code + 4)
  else if code = 43 then some 62
  else if code = 47 then some 63
  else none

theorem digitValue?_digit {value : Nat} (h : value < 64) : digitValue? (digit value) = some value := by
  have hall : ∀ v < 64, digitValue? (digit v) = some v := by decide
  exact hall value h

def encodeChars : Bytes → List Char
  | [] => []
  | [a] =>
    let bits := a.toNat * 16
    [digit (bits / 64), digit (bits % 64), '=', '=']
  | [a, b] =>
    let bits := (a.toNat * 256 + b.toNat) * 4
    [digit (bits / 4096), digit (bits / 64 % 64), digit (bits % 64), '=']
  | a :: b :: c :: rest =>
    let bits := (a.toNat * 256 + b.toNat) * 256 + c.toNat
    digit (bits / 262144) :: digit (bits / 4096 % 64) :: digit (bits / 64 % 64) ::
      digit (bits % 64) :: encodeChars rest

def encode (bytes : Bytes) : String :=
  String.ofList (encodeChars bytes)

def decodeChars? : List Char → Option Bytes
  | [] => some []
  | [a, b, '=', '='] => do
    let bits := (← digitValue? a) * 64 + (← digitValue? b)
    guard (bits % 16 = 0)
    return [UInt8.ofNat (bits / 16)]
  | [a, b, c, '='] => do
    let bits := ((← digitValue? a) * 64 + (← digitValue? b)) * 64 + (← digitValue? c)
    guard (bits % 4 = 0)
    return [UInt8.ofNat (bits / 1024), UInt8.ofNat (bits / 4 % 256)]
  | a :: b :: c :: d :: rest => do
    let bits := (((← digitValue? a) * 64 + (← digitValue? b)) * 64 + (← digitValue? c)) * 64 +
      (← digitValue? d)
    let rest ← decodeChars? rest
    return UInt8.ofNat (bits / 65536) :: UInt8.ofNat (bits / 256 % 256) ::
      UInt8.ofNat (bits % 256) :: rest
  | _ => none

def decode? (text : String) : Option Bytes :=
  decodeChars? text.toList

end BucketKeys.Text.Base64
