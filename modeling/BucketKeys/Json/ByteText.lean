import BucketKeys.Dictionary
import BucketKeys.Json.Basic
import BucketKeys.Text.Hex

/-!
Bytes as JSON: the text that they encode, or an object with their hexadecimal digits.
-/

namespace BucketKeys.Json

def ofBytes (data : Bytes) : Json :=
  match Text.decode? data with
  | some text => .string text
  | none => .object [("hex", .string (Text.hex data))]

def bytes? : Json → Option Bytes
  | .string text => some (Text.encode text)
  | .object [("hex", .string digits)] => Text.ofHex? digits
  | _ => none

def namedBytes (json : Json) : Dictionary Bytes :=
  .ofList (json.members.filterMap fun member => (bytes? member.2).map ((member.1, ·)))

end BucketKeys.Json
