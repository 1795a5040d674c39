import BucketKeys.Json.Read
import BucketKeys.Json.Write
import BucketKeys.Text.Quoted

/-!
What is wrong with a text that is no object of texts. Its reader stops at the first trouble that it
meets, and says what it is and in which line and column of the text it stands.
-/

namespace BucketKeys

open Text (Glyph)

/-- What a reader cannot take, and how many bytes lie behind the place where it stops. -/
structure Json.Trouble where
  what : String
  left : Nat
  deriving DecidableEq, Repr

namespace Json.Trouble

open Read (Input)

def size : Input → Nat
  | [] => 0
  | .char c :: rest => c.utf8Size + size rest
  | .stray _ :: rest => size rest + 1

def here (what : String) (input : Input) : Trouble :=
  ⟨what, size input⟩

/-- Trouble with the next byte, which counts as read. -/
def next (what : String) (input : Input) : Trouble :=
  ⟨what, size input - 1⟩

def ended (inside : String) : Trouble :=
  ⟨"EOF while parsing " ++ inside, 0⟩

def fourHex (input : Input) : Except Trouble (Nat × Input) :=
  match Read.fourHex? input with
  | some found => .ok found
  | none =>
    if size input < 4 then .error (ended "a string")
    else .error ⟨"invalid escape", size input - 4⟩

/-- Passes what has to follow the leading half of a pair. -/
def pass (c : Char) : Input → Except Trouble Input
  | [] => .error (ended "a string")
  | input@(.char first :: rest) =>
    if first = c then .ok rest else .error (next "unexpected end of hex escape" input)
  | input => .error (next "unexpected end of hex escape" input)

/-- Passes the unit of an escape, and a second one if they are a pair. -/
def passUnit (input : Input) : Except Trouble Input := do
  let (unit, rest) ← fourHex input
  if Read.isTrailing unit then .error (here "lone leading surrogate in hex escape" rest)
  else if Read.isLeading unit then
    let (second, rest) ← fourHex (← pass 'u' (← pass '\\' rest))
    if Read.isTrailing second then return rest
    else .error (here "lone leading surrogate in hex escape" rest)
  else return rest

def passEscape : Input → Except Trouble Input
  | [] => .error (ended "a string")
  | .char 'u' :: rest => passUnit rest
  | input@(.char c :: rest) =>
    if (Read.simpleEscape? c).isSome then .ok rest else .error (next "invalid escape" input)
  | input => .error (next "invalid escape" input)

/-- Passes one character of a string. That a byte is no character shows at the closing quote. -/
def passCharacter : Input → Except Trouble Input
  | [] => .error (ended "a string")
  | .stray _ :: rest => .ok rest
  | .char '"' :: rest => .error (here "invalid unicode code point" rest)
  | .char '\\' :: rest => passEscape rest
  | input@(.char c :: rest) =>
    if c.toNat < 0x20 then
      .error (next "control character (\\u0000-\\u001F) found while parsing a string" input)
    else .ok rest

/-- The trouble with a string that cannot be read behind its opening quote. -/
def ofString : (fuel : Nat) → Input → Trouble
  | 0, _ => ended "a string"
  | fuel + 1, input =>
    match passCharacter input with
    | .ok rest => ofString fuel rest
    | .error trouble => trouble

def string (input : Input) : Except Trouble (String × Input) :=
  match Read.stringBody input with
  | some (some chars, rest) => .ok (String.ofList chars, rest)
  | _ => .error (ofString (input.length + 1) input)

def word : List Char → Input → Except Trouble Input
  | [], input => .ok input
  | _, [] => .error (ended "a value")
  | c :: letters, input@(first :: rest) =>
    if first = .char c then word letters rest else .error (next "expected ident" input)

def digits : Input → Except Trouble (List Char × Input)
  | [] => .error (ended "a value")
  | input =>
    let (digits, rest) := Read.spanDigits input
    if digits.isEmpty then .error (next "invalid number" input) else .ok (digits, rest)

def fraction : Input → Except Trouble (List Char × Input)
  | .char '.' :: rest => digits rest
  | input => .ok ([], input)

def exponent : Input → Except Trouble (Option Int × List Char × Input)
  | .char c :: rest =>
    if c = 'e' ∨ c = 'E' then
      match rest with
      | .char '-' :: rest => do
        let (digits, rest) ← digits rest
        return (some (-Read.digitsValue digits), digits, rest)
      | .char '+' :: rest => do
        let (digits, rest) ← digits rest
        return (some (Read.digitsValue digits), digits, rest)
      | rest => do
        let (digits, rest) ← digits rest
        return (some (Read.digitsValue digits), digits, rest)
    else .ok (none, [], .char c :: rest)
  | input => .ok (none, [], input)

/-- How many digits are left when their value is beyond thirty-one bits. -/
def beyond (value : Nat) : List Char → Nat
  | [] => 0
  | c :: rest =>
    let next := value * 10 + (c.toNat - 48)
    if next < 2 ^ 31 then beyond next rest else rest.length

def number (negative : Bool) (input : Input) : Except Trouble (Json × Input) := do
  let (whole, rest) ← digits input
  if whole.head? = some '0' ∧ 1 < whole.length then .error (next "invalid number" (input.drop 1))
  else
    let (fraction, rest) ← fraction rest
    let (exponent, power, rest) ← exponent rest
    match Read.numberValue negative whole fraction exponent with
    | .unreadable => .error ⟨"number out of range", size rest + beyond 0 power⟩
    | value => return (value, rest)

/-- Reads a value for the message alone. What it contains is not looked at. -/
def value : Input → Except Trouble (Json × Input)
  | .char 'n' :: rest => (word ['u', 'l', 'l'] rest).map (.null, ·)
  | .char 't' :: rest => (word ['r', 'u', 'e'] rest).map (.bool true, ·)
  | .char 'f' :: rest => (word ['a', 'l', 's', 'e'] rest).map (.bool false, ·)
  | .char '-' :: rest => number true rest
  | .char '"' :: rest => (string rest).map fun (text, rest) => (.string text, rest)
  | input@(.char '[' :: _) => .ok (.array [], input)
  | input@(.char '{' :: _) => .ok (.object [], input)
  | input@(.char c :: _) =>
    if c.isDigit then number false input else .error (next "expected value" input)
  | input => .error (next "expected value" input)

def kind : Json → String
  | .bool value => "boolean `" ++ toString value ++ "`"
  | .number (.whole value) => "integer `" ++ String.ofList (Text.integerChars value) ++ "`"
  | .number (.double bits) =>
    "floating point `" ++ String.ofList (Write.doubleChars bits) ++ "`"
  | .string text => "string " ++ Text.Quoted.ofString text
  | .array _ => "sequence"
  | .object _ => "map"
  | _ => "null"

def mistaken (expected : String) (input : Input) : Trouble :=
  match value input with
  | .ok (value, rest) => here ("invalid type: " ++ kind value ++ ", expected " ++ expected) rest
  | .error trouble => trouble

def text (input : Input) : Except Trouble (String × Input) :=
  match Read.skipSpace input with
  | [] => .error (ended "a value")
  | .char '"' :: rest => string rest
  | input => .error (mistaken "a string" input)

def colon (input : Input) : Except Trouble Input :=
  match Read.skipSpace input with
  | [] => .error (ended "an object")
  | .char ':' :: rest => .ok rest
  | input => .error (next "expected `:`" input)

def member (input : Input) : Except Trouble ((String × String) × Input) :=
  match string input with
  | .error trouble => .error trouble
  | .ok (name, rest) =>
    match colon rest with
    | .error trouble => .error trouble
    | .ok rest => (text rest).map fun (text, rest) => ((name, text), rest)

def members : (fuel : Nat) → Input → Except Trouble (List (String × String) × Input)
  | 0, _ => .error (ended "an object")
  | fuel + 1, input =>
    match Read.skipSpace input with
    | .char '"' :: rest =>
      match member rest with
      | .error trouble => .error trouble
      | .ok (entry, rest) =>
        match Read.skipSpace rest with
        | .char ',' :: rest =>
          (members fuel rest).map fun (entries, rest) => (entry :: entries, rest)
        | .char '\x7d' :: rest => .ok ([entry], rest)
        | [] => .error (ended "an object")
        | input => .error (next "expected `,` or `\x7d`" input)
    -- at the start of an object these two are met before
    | input@(.char '\x7d' :: _) => .error (next "trailing comma" input)
    | [] => .error (ended "a value")
    | input => .error (next "key must be a string" input)

def object (fuel : Nat) (input : Input) : Except Trouble (List (String × String) × Input) :=
  match Read.skipSpace input with
  | .char '\x7d' :: rest => .ok ([], rest)
  | [] => .error (ended "an object")
  | input => members fuel input

def document (input : Input) : Except Trouble (List (String × String)) :=
  match Read.skipSpace input with
  | [] => .error (ended "a value")
  | .char '\x7b' :: rest =>
    match object (2 * input.length) rest with
    | .error trouble => .error trouble
    | .ok (entries, rest) =>
      match Read.skipSpace rest with
      | [] => .ok entries
      | input => .error (next "trailing characters" input)
  | input => .error (mistaken "a map" input)

def newline : UInt8 := 0x0A

/-- The trouble with its place in the data. Lines count from one, and columns in bytes. -/
def message (trouble : Trouble) (data : Bytes) : String :=
  let before := data.take (data.length - trouble.left)
  let column := (before.reverse.takeWhile (· != newline)).length
  trouble.what ++ " at line " ++ Text.decimal (before.count newline + 1) ++ " column " ++
    Text.decimal column

end Json.Trouble

/-- The texts in the object that the data hold, or what is wrong with the data. -/
def Json.texts (data : Bytes) : Except String (List (String × String)) :=
  match Trouble.document (Text.glyphs data) with
  | .ok entries => .ok entries
  | .error trouble => .error (trouble.message data)

end BucketKeys
