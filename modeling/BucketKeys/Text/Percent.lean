import BucketKeys.Text.Hex

/-!
Percent-encoding: characters of a set are replaced by the bytes of their encoding, each written
as a percent sign and two upper-case hexadecimal digits.
-/

namespace BucketKeys.Text.Percent

def byteChars (byte : UInt8) : List Char :=
  ['%', upperHexDigit (byte.toNat / 16), upperHexDigit (byte.toNat % 16)]

def charChars (escaped : Char → Bool) (c : Char) : List Char :=
  if escaped c then (String.utf8EncodeChar c).flatMap byteChars else [c]

def encodeChars (escaped : Char → Bool) (text : List Char) : List Char :=
  text.flatMap (charChars escaped)

def encode (escaped : Char → Bool) (text : String) : String :=
  String.ofList (encodeChars escaped text.toList)

/-- The bytes written by a percent-encoded text. A percent sign that no two hexadecimal digits
follow stands for itself. -/
def decode : List Char → Bytes
  | [] => []
  | '%' :: high :: low :: rest =>
    match hexValue? high, hexValue? low with
    | some h, some l => UInt8.ofNat (h * 16 + l) :: decode rest
    | _, _ => String.utf8EncodeChar '%' ++ decode (high :: low :: rest)
  | c :: rest => String.utf8EncodeChar c ++ decode rest

end BucketKeys.Text.Percent
