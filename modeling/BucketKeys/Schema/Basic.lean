import BucketKeys.Json.Basic

/-!
Structural schemas: what the cluster checks of an object, and the values it fills in for missing
fields.
-/

namespace BucketKeys

structure Schema.Notes where
  description : Option String := none
  /-- The value filled in for a missing field. -/
  fallback : Option Json := none
  nullable : Bool := false

inductive Schema where
  | text (notes : Schema.Notes)
  | choice (notes : Schema.Notes) (names : List String)
  | list (notes : Schema.Notes) (items : Schema)
  | record (notes : Schema.Notes) (fields : List (String × Schema)) (required : List String)

namespace Schema

def Notes.members (notes : Notes) : List (String × Json) :=
  (notes.description.map fun text => ("description", Json.string text)).toList ++
    (notes.fallback.map (("default", ·))).toList ++
    if notes.nullable then [("nullable", .bool true)] else []

mutual

def members : Schema → List (String × Json)
  | text notes => notes.members ++ [("type", .string "string")]
  | choice notes names =>
    notes.members ++ [("type", .string "string"), ("enum", .ofStrings names)]
  | list notes items =>
    notes.members ++ [("type", .string "array"), ("items", .object items.members)]
  | record notes fields required =>
    notes.members ++ [("type", .string "object"), ("properties", .object (fieldMembers fields))] ++
      if required.isEmpty then [] else [("required", .ofStrings required)]

def fieldMembers : List (String × Schema) → List (String × Json)
  | [] => []
  | (name, schema) :: rest => (name, .object schema.members) :: fieldMembers rest

end

def toJson (schema : Schema) : Json :=
  .object schema.members

def described (description : String) : Notes where
  description := some description

def optionally (notes : Notes) : Notes :=
  { notes with nullable := true }

def orElse (value : Json) (notes : Notes) : Notes :=
  { notes with fallback := some value }

end Schema

end BucketKeys
