import BucketKeys.Json.Basic

/-!
Merge patches: an object merges into an object member by member, a null removes a member, and
any other patch replaces the whole value.
-/

namespace BucketKeys.Json

mutual

def mergePatch (target : Json) : (patch : Json) → Json
  | .object changes => .object (mergeMembers target.members changes)
  | patch => patch

def mergeMembers (target : List (String × Json)) :
    (changes : List (String × Json)) → List (String × Json)
  | [] => target
  | (name, value) :: rest =>
    let old := (lookup? name target).getD .null
    let merged := mergePatch old value
    match value with
    | .null => mergeMembers (removeName name target) rest
    | _ => mergeMembers (putName name merged target) rest

end

end BucketKeys.Json
