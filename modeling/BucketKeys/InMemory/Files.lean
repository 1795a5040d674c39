import BucketKeys.Text.Utf8

/-!
A tree of files below a working directory, and what reading a path in it gives. Above the working
directory nothing but directories is known.
-/

namespace BucketKeys.InMemory

inductive FileFault where
  | notFound
  | notDirectory
  | isDirectory
  | nameTooLong
  | zeroCharacter
  deriving DecidableEq, Repr

namespace FileFault

def message : FileFault → String
  | notFound => "No such file or directory (os error 2)"
  | notDirectory => "Not a directory (os error 20)"
  | isDirectory => "Is a directory (os error 21)"
  | nameTooLong => "File name too long (os error 36)"
  | zeroCharacter => "file name contained an unexpected NUL byte"

end FileFault

/-- The contents of files by the names that lead to them; every name but the last is a directory. -/
structure Files where
  contents : List (List String × Bytes)
  deriving Repr

namespace Files

inductive Place where
  | above
  | directory (names : List String)
  | file (content : Bytes)

def isDirectory (files : Files) (names : List String) : Bool :=
  files.contents.any fun file => names.isPrefixOf file.1 && names != file.1

def isTooLong (name : String) : Bool :=
  255 < name.utf8ByteSize

def isUp (name : String) : Bool :=
  name == ".."

def isHere (name : String) : Bool :=
  name == "" || name == "."

/-- One name further; an empty name stays where it is, but only in a directory. -/
def step (files : Files) (place : Place) (name : String) : Except FileFault Place :=
  match place with
  | .file _ => .error .notDirectory
  | .above =>
    if isHere name || isUp name then .ok .above
    else if isTooLong name then .error .nameTooLong
    else .error .notFound
  | .directory names =>
    if isHere name then .ok place
    else if isUp name then .ok (if names.isEmpty then .above else .directory names.dropLast)
    else if isTooLong name then .error .nameTooLong
    else
      let names := names ++ [name]
      match files.contents.lookup names with
      | some content => .ok (.file content)
      | none => if files.isDirectory names then .ok (.directory names) else .error .notFound

def read (files : Files) (path : String) : Except FileFault Bytes :=
  if path.toList.contains '\x00' then .error .zeroCharacter
  else if path.isEmpty then .error .notFound
  else if 4096 ≤ path.utf8ByteSize then .error .nameTooLong
  else
    let start := if path.startsWith "/" then Place.above else .directory []
    match (path.splitOn "/").foldlM files.step start with
    | .ok (.file content) => .ok content
    | .ok _ => .error .isDirectory
    | .error fault => .error fault

def ofPaths (files : List (String × Bytes)) : Files :=
  ⟨files.map fun file => (file.1.splitOn "/", file.2)⟩

end Files

end BucketKeys.InMemory
