import BucketKeys.Json.Basic
import BucketKeys.Number.Scaled
import BucketKeys.Text.Decimal
import BucketKeys.Text.Hex

/-!
Reading JSON text. The text holds one value between white space. What is well-formed and yet has
no value is read as unreadable, so that it fails only a reader that needs the value.
-/

namespace BucketKeys.Json.Read

open BucketKeys.Text (Glyph)

abbrev Input := List Glyph

def isSpace : Glyph → Bool
  | .char c => c = ' ' ∨ c = '\n' ∨ c = '\t' ∨ c = '\r'
  | .stray _ => false

def skipSpace (input : Input) : Input :=
  input.dropWhile isSpace

def fourHex? : Input → Option (Nat × Input)
  | .char a :: .char b :: .char c :: .char d :: rest => do
    let high := (← Text.hexValue? a) * 16 + (← Text.hexValue? b)
    let low := (← Text.hexValue? c) * 16 + (← Text.hexValue? d)
    return (high * 256 + low, rest)
  | _ => none

theorem fourHex?_length {input rest : Input} {value : Nat}
    (h : fourHex? input = some (value, rest)) : rest.length < input.length := by
  unfold fourHex? at h
  split at h
  · simp only [bind, Option.bind_eq_some_iff] at h
    obtain ⟨_, _, _, _, _, _, _, _, heq⟩ := h
    cases heq
    simp only [List.length_cons]
    omega
  · cases h

def isLeading (unit : Nat) : Bool :=
  0xD800 ≤ unit && unit < 0xDC00

def isTrailing (unit : Nat) : Bool :=
  0xDC00 ≤ unit && unit < 0xE000

def pairChar (leading trailing : Nat) : Char :=
  Char.ofNat (0x10000 + (leading - 0xD800) * 0x400 + (trailing - 0xDC00))

/-- The trailing half of a pair at the front of the text. -/
def trailing? : Input → Option (Nat × Input)
  | .char '\\' :: .char 'u' :: rest =>
    match fourHex? rest with
    | some (unit, rest) => if isTrailing unit then some (unit, rest) else none
    | none => none
  | _ => none

theorem trailing?_length {input rest : Input} {unit : Nat}
    (h : trailing? input = some (unit, rest)) : rest.length < input.length := by
  unfold trailing? at h
  split at h
  · rename_i tail
    split at h
    · rename_i hfour
      have := fourHex?_length hfour
      split at h
      · cases h
        simp only [List.length_cons]
        omega
      · cases h
    · cases h
  · cases h

def simpleEscape? : Char → Option Char
  | '"' => some '"'
  | '\\' => some '\\'
  | '/' => some '/'
  | 'b' => some '\x08'
  | 'f' => some '\x0c'
  | 'n' => some '\n'
  | 'r' => some '\r'
  | 't' => some '\t'
  | _ => none

/-- The characters of a string up to its closing quote; none if one of them cannot be read. -/
abbrev StringResult := Option (Option (List Char) × Input)

def StringResult.push (c : Option Char) (result : StringResult) : StringResult :=
  result.map fun (chars, rest) => ((c.bind fun c => chars.map (c :: ·)), rest)

def stringBody : Input → StringResult
  | [] => none
  | .stray _ :: rest => StringResult.push none (stringBody rest)
  | .char '"' :: rest => some (some [], rest)
  | .char '\\' :: .char 'u' :: rest =>
    match hfour : fourHex? rest with
    | none => none
    | some (unit, tail) =>
      have := fourHex?_length hfour
      if isLeading unit then
        match htrail : trailing? tail with
        | some (second, tail) =>
          have := trailing?_length htrail
          StringResult.push (some (pairChar unit second)) (stringBody tail)
        | none => StringResult.push none (stringBody tail)
      else if isTrailing unit then StringResult.push none (stringBody tail)
      else StringResult.push (some (Char.ofNat unit)) (stringBody tail)
  | .char '\\' :: .char c :: rest =>
    match simpleEscape? c with
    | some c => StringResult.push (some c) (stringBody rest)
    | none => none
  | .char c :: rest =>
    if c.toNat < 0x20 ∨ c = '\\' then none else StringResult.push (some c) (stringBody rest)
termination_by input => input.length
decreasing_by all_goals simp only [List.length_cons]; omega

def spanDigits : Input → List Char × Input
  | .char c :: rest =>
    if c.isDigit then
      let (digits, rest) := spanDigits rest
      (c :: digits, rest)
    else ([], .char c :: rest)
  | input => ([], input)

def digitsValue (digits : List Char) : Nat :=
  digits.foldl (fun value c => value * 10 + (c.toNat - 48)) 0

def wholePart? (input : Input) : Option (List Char × Input) :=
  match input with
  | .char '0' :: rest => some (['0'], rest)
  | _ =>
    let (digits, rest) := spanDigits input
    if digits.isEmpty then none else some (digits, rest)

def fractionPart? : Input → Option (List Char × Input)
  | .char '.' :: rest =>
    let (digits, rest) := spanDigits rest
    if digits.isEmpty then none else some (digits, rest)
  | input => some ([], input)

def exponentDigits? (input : Input) : Option (Nat × Input) :=
  let (digits, rest) := spanDigits input
  if digits.isEmpty then none else some (digitsValue digits, rest)

def exponentPart? : Input → Option (Option Int × Input)
  | .char c :: rest =>
    if c = 'e' ∨ c = 'E' then
      match rest with
      | .char '+' :: rest => (exponentDigits? rest).map fun (value, rest) => (some value, rest)
      | .char '-' :: rest =>
        (exponentDigits? rest).map fun (value, rest) => (some (-value : Int), rest)
      | rest => (exponentDigits? rest).map fun (value, rest) => (some value, rest)
    else some (none, .char c :: rest)
  | input => some (none, input)

def smallestWhole : Int := -9223372036854775808

def ofDouble (negative : Bool) (magnitude : Option Float) : Json :=
  match magnitude with
  | some x => .number (.double (if negative then (-x).toBits else x.toBits))
  | none => .unreadable

/-- Digits that a significand does not take up count as zeros before the point, and behind it as
nothing. Whole numbers that fit are kept as such. -/
def numberValue (negative : Bool) (whole fraction : List Char) (exponent : Option Int) : Json :=
  let (significand, zeros) := Number.takeUp 0 whole
  let (significand, left) := Number.takeUp significand fraction
  let magnitude : Int := significand
  if fraction.isEmpty && exponent.isNone && zeros == 0 then
    if !negative then .number (.whole magnitude)
    else if magnitude == 0 || -magnitude < smallestWhole then
      ofDouble true (some significand.toUInt64.toFloat)
    else .number (.whole (-magnitude))
  else
    let places : Int := fraction.length - left
    ofDouble negative
      (Number.scaled? significand.toUInt64.toFloat (zeros - places + exponent.getD 0))

/-- Reads behind the sign. -/
def unsignedNumber? (negative : Bool) (input : Input) : Option (Json × Input) := do
  let (whole, rest) ← wholePart? input
  let (fraction, rest) ← fractionPart? rest
  let (exponent, rest) ← exponentPart? rest
  return (numberValue negative whole fraction exponent, rest)

def literal? (text : List Char) (value : Json) (input : Input) : Option (Json × Input) :=
  if (text.map Glyph.char).isPrefixOf input then some (value, input.drop text.length) else none

def ofChars : Option (List Char) → Json
  | some chars => .string (String.ofList chars)
  | none => .unreadable

/-- A container is readable up to the allowed depth. -/
def contained (depth : Nat) (value : Json) : Json :=
  if depth = 0 then .unreadable else value

/-- Members read so far; none if one of their names cannot be read. -/
abbrev Members := Option (List (String × Json))

def Members.push (name : Option (List Char)) (value : Json) (members : Members) : Members :=
  name.bind fun name => members.map ((String.ofList name, value) :: ·)

def Members.toJson : Members → Json
  | some members => .object members
  | none => .unreadable

mutual

/-- Reads one value and the white space in front of it; `depth` containers may still be nested. -/
def value? : (fuel : Nat) → (depth : Nat) → Input → Option (Json × Input)
  | 0, _, _ => none
  | fuel + 1, depth, input =>
    match skipSpace input with
    | .char '"' :: rest => (stringBody rest).map fun (chars, rest) => (ofChars chars, rest)
    | .char '[' :: rest =>
      match skipSpace rest with
      | .char ']' :: rest => some (contained depth (.array []), rest)
      | rest =>
        (items? fuel (depth - 1) rest).map fun (items, rest) =>
          (contained depth (.array items), rest)
    | .char '{' :: rest =>
      match skipSpace rest with
      | .char '}' :: rest => some (contained depth (.object []), rest)
      | rest =>
        (members? fuel (depth - 1) rest).map fun (members, rest) =>
          (contained depth members.toJson, rest)
    | .char '-' :: rest => unsignedNumber? true rest
    | .char 'n' :: rest => literal? ['u', 'l', 'l'] .null rest
    | .char 't' :: rest => literal? ['r', 'u', 'e'] (.bool true) rest
    | .char 'f' :: rest => literal? ['a', 'l', 's', 'e'] (.bool false) rest
    | rest => unsignedNumber? false rest

def items? : (fuel : Nat) → (depth : Nat) → Input → Option (List Json × Input)
  | 0, _, _ => none
  | fuel + 1, depth, input =>
    match value? fuel depth input with
    | none => none
    | some (item, rest) =>
      match skipSpace rest with
      | .char ',' :: rest =>
        (items? fuel depth rest).map fun (items, rest) => (item :: items, rest)
      | .char ']' :: rest => some ([item], rest)
      | _ => none

def members? : (fuel : Nat) → (depth : Nat) → Input → Option (Members × Input)
  | 0, _, _ => none
  | fuel + 1, depth, input =>
    match skipSpace input with
    | .char '"' :: rest =>
      match stringBody rest with
      | none => none
      | some (name, rest) =>
        match skipSpace rest with
        | .char ':' :: rest =>
          match value? fuel depth rest with
          | none => none
          | some (value, rest) =>
            match skipSpace rest with
            | .char ',' :: rest =>
              (members? fuel depth rest).map fun (members, rest) =>
                (members.push name value, rest)
            | .char '}' :: rest => some (Members.push name value (some []), rest)
            | _ => none
        | _ => none
    | _ => none

end

def document? (depth : Nat) (input : Input) : Option Json :=
  match value? (2 * input.length + 2) depth input with
  | some (value, rest) => if (skipSpace rest).isEmpty then some value else none
  | none => none

end Read

def depthLimit : Nat := 127

def read? (bytes : Bytes) : Option Json :=
  Read.document? depthLimit (Text.glyphs bytes)

/-- Reads text of which nothing may be unreadable, however deep. -/
def readAll? (text : String) : Option Json :=
  let input := text.toList.map Text.Glyph.char
  (Read.document? input.length input).filter readable

end BucketKeys.Json
