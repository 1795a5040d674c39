import BucketKeys.Dictionary
import BucketKeys.Json.Basic

/-!
Typed reading of JSON values. A record is written as an object or as the list of its fields in
their declared order. Unknown members are passed over; a known member may not be repeated.
-/

namespace BucketKeys.Json

abbrev Decoder (α : Type) := Json → Option α

namespace Decode

def string : Decoder String
  | .string text => some text
  | _ => none

def bool : Decoder Bool
  | .bool value => some value
  | _ => none

def int64 : Decoder Int
  | .number (.whole value) =>
    if -9223372036854775808 ≤ value ∧ value ≤ 9223372036854775807 then some value else none
  | _ => none

def list (item : Decoder α) : Decoder (List α)
  | .array items => items.mapM item
  | _ => none

def optional (value : Decoder α) : Decoder (Option α)
  | .null => some none
  | json => (value json).map some

/-- All members are read, and the last of a name counts. -/
def dictionary (value : Decoder α) : Decoder (Dictionary α)
  | .object members =>
    (members.mapM fun member : String × Json => (value member.2).map ((member.1, ·))).map
      Dictionary.ofList
  | _ => none

/-- One of the named values: its name, or an object whose only member is its name with null. -/
def enumeration (values : List (String × α)) : Decoder α
  | .string name => values.lookup name
  | .object [(name, .null)] => values.lookup name
  | _ => none

def any : Decoder Json := fun json =>
  if json.readable then some json else none

end Decode

/-- The known fields of a record that are present. -/
structure Record where
  positional : Bool
  fields : List (String × Json)

namespace Record

def repeats (names : List String) : Bool :=
  !decide names.Nodup

def ofJson? (names : List String) : Decoder Record
  | .object members =>
    let known := members.filter fun member => names.contains member.1
    if repeats (known.map (·.1)) then none else some ⟨false, known⟩
  | .array items => if items.length ≤ names.length then some ⟨true, names.zip items⟩ else none
  | _ => none

def find? (record : Record) (name : String) : Option Json :=
  record.fields.lookup name

def required (record : Record) (name : String) (value : Decoder α) : Option α :=
  (record.find? name).bind value

def defaulted (record : Record) (name : String) (value : Decoder α) (missing : α) : Option α :=
  match record.find? name with
  | some json => value json
  | none => some missing

/-- A field that may be null, and missing if fields are given by name. -/
def nullable (record : Record) (name : String) (value : Decoder α) : Option (Option α) :=
  match record.find? name with
  | some json => Decode.optional value json
  | none => if record.positional then none else some none

end Record

/-- A field of an object whose members may all be missing, null or repeated: every occurrence is
read, and the last counts. -/
def sparse (members : List (String × Json)) (name : String) (value : Decoder α) :
    Option (Option α) :=
  ((members.filter (·.1 == name)).mapM fun member => Decode.optional value member.2).map
    fun values => values.getLast?.join

def present (members : List (String × Option Json)) : Json :=
  .object (members.filterMap fun member => member.2.map ((member.1, ·)))

def ofDictionary (f : α → Json) (map : Dictionary α) : Json :=
  .object (map.entries.map fun entry => (entry.1, f entry.2))

end BucketKeys.Json
