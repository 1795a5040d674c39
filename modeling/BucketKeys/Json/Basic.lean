/-!
JSON values. An object keeps its members in their written order, repeated names included, so
that each reader of a value decides what a repetition means.
-/

namespace BucketKeys

/-- A number is a whole number of 64 bits, or else the nearest double. -/
inductive Json.Number where
  | whole (value : Int)
  | double (bits : UInt64)
  deriving DecidableEq, Repr

inductive Json where
  | null
  | bool (value : Bool)
  | number (value : Json.Number)
  | string (value : String)
  | array (items : List Json)
  | object (members : List (String × Json))
  /-- Well-formed text without a value: half a surrogate pair, bytes that are no characters, a
  number beyond the doubles, or containers nested too deeply. It can only be passed over. -/
  | unreadable
  deriving Repr, BEq, Inhabited

namespace Json

def nat (value : Nat) : Json :=
  .number (.whole value)

def int (value : Int) : Json :=
  .number (.whole value)

def ofOption (f : α → Json) : Option α → Json
  | none => .null
  | some value => f value

def ofStrings (values : List String) : Json :=
  .array (values.map .string)

/-- The last member of a name. -/
def lookup? (name : String) (members : List (String × Json)) : Option Json :=
  (members.reverse.find? (·.1 == name)).map (·.2)

def get? (name : String) : Json → Option Json
  | .object members => lookup? name members
  | _ => none

def members : Json → List (String × Json)
  | .object members => members
  | _ => []

def removeName (name : String) (members : List (String × Json)) : List (String × Json) :=
  members.filter (·.1 != name)

/-- Replaces the value of a name at its place, or appends a member. -/
def putName (name : String) (value : Json) : List (String × Json) → List (String × Json)
  | [] => [(name, value)]
  | member :: rest =>
    if member.1 == name then (name, value) :: removeName name rest
    else member :: putName name value rest

mutual

def distinct : Json → Json
  | .array items => .array (distinctItems items)
  | .object members => .object (distinctMembers members)
  | value => value

def distinctItems : List Json → List Json
  | [] => []
  | item :: rest => distinct item :: distinctItems rest

def distinctMembers : List (String × Json) → List (String × Json)
  | [] => []
  | (name, value) :: rest =>
    let later := distinctMembers rest
    if rest.any (·.1 == name) then later else (name, distinct value) :: later

end

mutual

def readable : Json → Bool
  | .unreadable => false
  | .array items => readableItems items
  | .object members => readableMembers members
  | _ => true

def readableItems : List Json → Bool
  | [] => true
  | item :: rest => readable item && readableItems rest

def readableMembers : List (String × Json) → Bool
  | [] => true
  | (_, value) :: rest => readable value && readableMembers rest

end

end Json

end BucketKeys
