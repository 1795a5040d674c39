import BucketKeys.Schema.Basic

/-!
Values that a schema accepts, and the filling in of missing fields. Members that a schema does not
name are free.
-/

namespace BucketKeys.Schema

def notes : Schema → Notes
  | text notes => notes
  | choice notes _ => notes
  | list notes _ => notes
  | record notes _ _ => notes

mutual

def accepts : Schema → Json → Bool
  | text notes, value =>
    match value with
    | .string _ => true
    | .null => notes.nullable
    | _ => false
  | choice notes names, value =>
    match value with
    | .string name => names.contains name
    | .null => notes.nullable
    | _ => false
  | list notes items, value =>
    match value with
    | .array values => values.all items.accepts
    | .null => notes.nullable
    | _ => false
  | record notes fields required, value =>
    match value with
    | .object members =>
      (required.all fun name => members.any (·.1 == name)) && acceptsFields fields members
    | .null => notes.nullable
    | _ => false

/-- Whether all members of each field's name are as the field says. -/
def acceptsFields : List (String × Schema) → List (String × Json) → Bool
  | [], _ => true
  | (name, schema) :: rest, members =>
    (members.all fun member => member.1 != name || schema.accepts member.2) &&
      acceptsFields rest members

end

mutual

def fill : Schema → Json → Json
  | list _ items, .array values => .array (values.map items.fill)
  | record _ fields _, .object members => .object (fillFields fields members)
  | _, value => value

def fillFields : List (String × Schema) → List (String × Json) → List (String × Json)
  | [], members => members
  | (name, schema) :: rest, members =>
    let present := members.map fun member =>
      if member.1 == name then (name, schema.fill member.2) else member
    let missing :=
      if members.any (·.1 == name) then []
      else (schema.notes.fallback.map fun value => (name, schema.fill value)).toList
    fillFields rest (present ++ missing)

end

@[simp] theorem accepts_null (schema : Schema) : schema.accepts .null = schema.notes.nullable := by
  cases schema <;> simp [accepts, notes]

end BucketKeys.Schema
