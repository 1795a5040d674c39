import BucketKeys.Url.Host

/-!
Reading URLs. Controls and spaces around a URL and line ends within it do not count, backslashes
are slashes in the schemes that name a host, and steps up and down are taken out of paths.
-/

namespace BucketKeys.Url

namespace Read

def isPadding (c : Char) : Bool :=
  c.toNat ≤ 0x20

def clean (text : String) : List Char :=
  ((text.toList.dropWhile isPadding).reverse.dropWhile isPadding).reverse.filter
    (!Rooted.isDropped ·)

def isSchemeChar (c : Char) : Bool :=
  c.isAlphanum || c == '+' || c == '-' || c == '.'

def scheme? (text : List Char) : Option (String × List Char) :=
  match text, text.dropWhile isSchemeChar with
  | first :: _, ':' :: rest =>
    if first.isAlpha then
      some (String.ofList ((text.takeWhile isSchemeChar).map Char.toLower), rest)
    else none
  | _, _ => none

def cut (mark : Char) (text : List Char) : List Char × Option (List Char) :=
  match text.dropWhile (· != mark) with
  | _ :: behind => (text.takeWhile (· != mark), some behind)
  | [] => (text, none)

def isSlash (special : Bool) (c : Char) : Bool :=
  c == '/' || special && c == '\\'

def isHere (segment : String) : Bool :=
  [".", "%2e"].contains (segment.map Char.toLower)

def isUp (segment : String) : Bool :=
  ["..", ".%2e", "%2e.", "%2e%2e"].contains (segment.map Char.toLower)

/-- Takes out the steps; a step at the end leaves a slash there. -/
def walk (taken : List String) : List (List Char) → List String
  | [] => taken
  | segment :: rest =>
    let text := String.ofList segment
    let ending := if rest.isEmpty then [""] else []
    if isUp text then walk (taken.dropLast ++ ending) rest
    else if isHere text then walk (taken ++ ending) rest
    else walk (taken ++ [String.ofList (Text.Percent.encodeChars inPath segment)]) rest

def path (special : Bool) (text : List Char) : List String :=
  match text with
  | [] => if special then [""] else []
  | _ :: rest => walk [] (Text.pieces (isSlash special) rest)

def portBound : Nat := 65536

/-- The port behind a host, and the path after it. A colon alone names no port; a backslash ends
the port even where it is no slash. -/
def port? (text : List Char) : Option (Option Nat × List Char) :=
  let path := text.dropWhile (· != '\\')
  match text.takeWhile (· != '\\') with
  | [] => some (none, path)
  | digits => do
    let value ← Host.valueIn? 10 digits
    if value < portBound then return (some value, path) else none

def splitHost (inBrackets : Bool) : List Char → List Char × Option (List Char)
  | [] => ([], none)
  | c :: rest =>
    if c = ':' ∧ inBrackets = false then ([], some rest)
    else
      let (host, behind) := splitHost (if c = '[' then true else if c = ']' then false else inBrackets) rest
      (c :: host, behind)

def splitUser (text : List Char) : Option (List Char) × List Char :=
  let host := (text.reverse.takeWhile (· != '@')).reverse
  if host.length = text.length then (none, text)
  else (some (text.take (text.length - host.length - 1)), host)

/-- A user without a name and a password is none. -/
def namesUser (user : Option (List Char)) : Bool :=
  match user with
  | some text => text != [] && text != [':']
  | none => false

/-- An authority, of which it is known whether nothing follows it, and what it leaves over. -/
def authority? (special atEnd : Bool) (text : List Char) : Option (Authority × List Char) := do
  let (user, rest) := splitUser text
  let (hostText, portText) := splitHost false rest
  guard (!(user == some [] && rest.isEmpty && !atEnd))
  let host ← if special then Host.special? hostText else Host.verbatim? hostText
  guard (!(host == .empty && (portText.isSome || namesUser user)))
  let (port, path) ← port? (portText.getD [])
  return (⟨String.ofList (user.getD []), host, port⟩, path)

def isFileSlash (c : Char) : Bool :=
  isSlash true c

/-- A drive letter in the place of a host is part of the path. -/
def isDriveLetter : List Char → Bool
  | [letter, mark] => letter.isAlpha && (mark == ':' || mark == '|')
  | _ => false

def file? (text : List Char) : Option (Option Authority × List String) :=
  match text with
  | a :: b :: rest =>
    if isFileSlash a && isFileSlash b then
      let host := rest.takeWhile (!isFileSlash ·)
      let behind := rest.dropWhile (!isFileSlash ·)
      if host.isEmpty then some (none, path true behind)
      else if isDriveLetter host then some (none, path true ('/' :: rest))
      else do
        let host ← Host.special? host
        return (some ⟨"", host, none⟩, path true behind)
    else if isFileSlash a then some (none, path true text)
    else some (none, path true ('/' :: text))
  | [c] => some (none, path true (if isFileSlash c then text else '/' :: text))
  | [] => some (none, path true [])

def rooted? (scheme : String) (text : List Char) (query fragment : Option String) :
    Option Rooted := do
  if scheme == fileScheme then
    let (authority, path) ← file? text
    return ⟨scheme, authority, path, query, fragment⟩
  else
    let special := isSpecial scheme
    let text := if special then text.dropWhile (isSlash true) else text.drop 2
    let named := text.takeWhile (!isSlash special ·)
    let behind := text.dropWhile (!isSlash special ·)
    let atEnd := behind.isEmpty && query.isNone && fragment.isNone
    let (authority, left) ← authority? special atEnd named
    let root := if left.isEmpty then [] else ['/']
    return ⟨scheme, some authority, path special (root ++ left ++ behind), query, fragment⟩

end Read

def read? (text : String) : Option Url := do
  let (scheme, rest) ← Read.scheme? (Read.clean text)
  let (rest, fragment) := Read.cut '#' rest
  let (rest, query) := Read.cut '?' rest
  let fragment := fragment.map fun part =>
    String.ofList (Text.Percent.encodeChars inFragment part)
  let query := query.map fun part =>
    String.ofList (Text.Percent.encodeChars (inQuery (isSpecial scheme)) part)
  if isSpecial scheme then return .rooted (← Read.rooted? scheme rest query fragment)
  else
    match rest with
    | '/' :: '/' :: _ => return .rooted (← Read.rooted? scheme rest query fragment)
    | '/' :: _ => return .rooted ⟨scheme, none, Read.path false rest, query, fragment⟩
    | _ =>
      let path := String.ofList (Text.Percent.encodeChars isControlOrForeign rest)
      return .rootless ⟨scheme, path, query, fragment⟩

end BucketKeys.Url
