/-!
Bytes read as UTF-8. A byte that belongs to no character is kept as it is, so reading loses
nothing.
-/

namespace BucketKeys

abbrev Bytes := List UInt8

namespace Text

/-- What a byte string holds at one place: a character, or a byte that is part of none. -/
inductive Glyph where
  | char (c : Char)
  | stray (byte : UInt8)
  deriving DecidableEq, Repr

def encodeChars (text : List Char) : Bytes :=
  text.flatMap String.utf8EncodeChar

def encode (text : String) : Bytes :=
  encodeChars text.toList

theorem encode_injective {first second : String} (hsame : encode first = encode second) :
    first = second := by
  rw [← String.toByteArray_inj, ← String.utf8Encode_toList, ← String.utf8Encode_toList]
  exact congrArg List.toByteArray hsame

def firstChar? (bytes : Bytes) : Option Char :=
  (bytes.take 4).toByteArray.utf8DecodeChar? 0

def glyphs : Bytes → List Glyph
  | [] => []
  | byte :: rest =>
    match firstChar? (byte :: rest) with
    | some c => .char c :: glyphs (rest.drop (c.utf8Size - 1))
    | none => .stray byte :: glyphs rest
termination_by bytes => bytes.length
decreasing_by all_goals simp only [List.length_cons, List.length_drop]; omega

def Glyph.char? : Glyph → Option Char
  | .char c => some c
  | .stray _ => none

def decode? (bytes : Bytes) : Option String :=
  ((glyphs bytes).mapM Glyph.char?).map String.ofList

end Text

end BucketKeys
