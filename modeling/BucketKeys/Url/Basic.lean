import BucketKeys.Text.Decimal
import BucketKeys.Text.Percent

/-!
URLs. Behind the scheme of a URL stands either a path that starts at a root, where segments can be
added, or a plain text.
-/

namespace BucketKeys

namespace Url

inductive Host where
  | empty
  | domain (name : String)
  | ipv4 (address : Nat)
  | ipv6 (pieces : List Nat)
  /-- The host of a scheme that has no rules for hosts. -/
  | verbatim (text : String)
  deriving DecidableEq, Repr

structure Authority where
  user : String
  host : Host
  port : Option Nat
  deriving DecidableEq, Repr

structure Rooted where
  scheme : String
  authority : Option Authority
  /-- Percent-encoded segments; an empty last one stands for a slash at the end. -/
  path : List String
  query : Option String
  fragment : Option String
  deriving DecidableEq, Repr

structure Rootless where
  scheme : String
  path : String
  query : Option String
  fragment : Option String
  deriving DecidableEq, Repr

end Url

inductive Url where
  | rooted (url : Url.Rooted)
  | rootless (url : Url.Rootless)
  deriving DecidableEq, Repr

namespace Url

def isControlOrForeign (c : Char) : Bool :=
  c.toNat < 0x20 || 0x7F ≤ c.toNat

def inFragment (c : Char) : Bool :=
  isControlOrForeign c || c == ' ' || c == '"' || c == '<' || c == '>' || c.toNat == 0x60

def inQuery (special : Bool) (c : Char) : Bool :=
  isControlOrForeign c || c == ' ' || c == '"' || c == '#' || c == '<' || c == '>' ||
    special && c == '\''

def inPath (c : Char) : Bool :=
  inFragment c || c == '#' || c == '?' || c == '\x7b' || c == '\x7d'

/-- In a segment that is added to a path nothing may end it, and no percent sign may begin an
escape. -/
def inSegment (special : Bool) (c : Char) : Bool :=
  inPath c || c == '/' || c == '%' || special && c == '\\'

def hostedSchemes : List String := ["http", "https", "ws", "wss", "ftp"]

def fileScheme : String := "file"

def isSpecial (scheme : String) : Bool :=
  hostedSchemes.contains scheme || scheme == fileScheme

def defaultPort? (scheme : String) : Option Nat :=
  if scheme == "http" || scheme == "ws" then some 80
  else if scheme == "https" || scheme == "wss" then some 443
  else if scheme == "ftp" then some 21
  else none

def tailText (mark : String) (part : Option String) : String :=
  match part with
  | some text => mark ++ text
  | none => ""

namespace Host

def ipv4Text (address : Nat) : String :=
  ".".intercalate <| [24, 16, 8, 0].map fun bits => Text.decimal ((address >>> bits) % 256)

def pieceText (piece : Nat) : String :=
  String.ofList (Nat.toDigits 16 piece)

/-- The first of the longest runs of zeros, if one is longer than a single piece: where it starts
and how long it is. -/
def gap? (pieces : List Nat) : Option (Nat × Nat) :=
  (List.range pieces.length).foldl (fun best start =>
    let length := ((pieces.drop start).takeWhile (· == 0)).length
    if max 1 ((best.map (·.2)).getD 0) < length then some (start, length) else best) none

def ipv6Text (pieces : List Nat) : String :=
  let written (pieces : List Nat) := ":".intercalate (pieces.map pieceText)
  match gap? pieces with
  | none => written pieces
  | some (start, length) => written (pieces.take start) ++ "::" ++ written (pieces.drop (start + length))

def text : Host → String
  | empty => ""
  | domain name => name
  | ipv4 address => ipv4Text address
  | ipv6 pieces => "[" ++ ipv6Text pieces ++ "]"
  | verbatim text => text

end Host

namespace Rootless

def text (url : Rootless) : String :=
  url.scheme ++ ":" ++ url.path ++ tailText "?" url.query ++ tailText "#" url.fragment

end Rootless

namespace Rooted

def target (url : Rooted) : String :=
  "/" ++ "/".intercalate url.path ++ tailText "?" url.query

/-- The host and the port of a URL, if it has a host; its default port is not shown. -/
def authorityText (url : Rooted) : String :=
  match url.authority with
  | none => ""
  | some authority =>
    "//" ++ authority.host.text ++
      tailText ":" ((authority.port.filter (some · != defaultPort? url.scheme)).map Text.decimal)

/-- The whole URL, less the user that it names. -/
def text (url : Rooted) : String :=
  url.scheme ++ ":" ++ url.authorityText ++ url.target ++ tailText "#" url.fragment

def isDropped (c : Char) : Bool :=
  c == '\t' || c == '\n' || c == '\r'

/-- One more segment. What would be a step back is one, and what would be no step ends the path. -/
def append (segment : String) (url : Rooted) : Rooted :=
  let kept := segment.toList.filter (!isDropped ·)
  let path :=
    if segment == "." || segment == ".." then url.path
    else if kept == ['.'] then url.path ++ [""]
    else if kept == ['.', '.'] then url.path.dropLast ++ [""]
    else
      url.path ++ [String.ofList (Text.Percent.encodeChars (inSegment (isSpecial url.scheme)) kept)]
  { url with path := path }

def withoutLastSlash (url : Rooted) : Rooted :=
  let path := if url.path.getLast? = some "" then url.path.dropLast else url.path
  { url with path := if path = [""] then [] else path }

def below (segments : List String) (url : Rooted) : Rooted :=
  segments.foldl (fun url segment => url.append segment) url.withoutLastSlash

end Rooted

end Url

end BucketKeys
