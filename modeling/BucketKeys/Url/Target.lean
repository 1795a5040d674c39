import BucketKeys.Dictionary
import BucketKeys.Text.Utf8
import BucketKeys.Url.Read

/-!
Targets of requests: the path that is asked for and its query. A fragment is not part of a target,
and some characters have to be encoded before they can stand in one.
-/

namespace BucketKeys.Url

structure Target where
  path : String
  query : Option String
  deriving DecidableEq, Repr

namespace Target

inductive Fault where
  | badCharacter
  | tooLong
  deriving DecidableEq, Repr

def Fault.message : Fault → String
  | badCharacter => "invalid uri character"
  | tooLong => "uri too long"

def isAllowed (c : Char) : Bool :=
  0x20 < c.toNat && c.toNat != 0x7F && c != '<' && c != '>'

def inPath (c : Char) : Bool :=
  isAllowed c && c.toNat != 0x60

def inQuery (c : Char) : Bool :=
  isAllowed c && c != '"'

def sizeLimit : Nat := 65534

def endsPath (c : Char) : Bool :=
  c == '?' || c == '#'

def queryOf (text : List Char) : Option (List Char) :=
  match text with
  | '?' :: rest => some (rest.takeWhile (· != '#'))
  | _ => none

def read (text : String) : Except Fault Target :=
  let path := text.toList.takeWhile (!endsPath ·)
  let query := queryOf (text.toList.dropWhile (!endsPath ·))
  if sizeLimit < text.utf8ByteSize then .error .tooLong
  else if path.all inPath && (query.getD []).all inQuery then
    .ok ⟨String.ofList path, query.map String.ofList⟩
  else .error .badCharacter

/-- What follows the host in a target that names one, and any other target as it is. -/
def withoutHost (text : List Char) : List Char :=
  match text.dropWhile Read.isSchemeChar with
  | ':' :: '/' :: '/' :: rest =>
    match rest.dropWhile fun c => c != '/' && !endsPath c with
    | '/' :: path => '/' :: path
    | behind => '/' :: behind
  | _ => text

/-- The parameters of a query; the last of a name counts. -/
def parameters (target : Target) : Dictionary String :=
  .ofList <| (Text.pieces (· == '&') (target.query.getD "").toList).filterMap fun part =>
    match Read.cut '=' part with
    | (name, some value) => some (String.ofList name, String.ofList value)
    | (_, none) => none

/-- Of the characters that a host may have, some cannot be told in a request. -/
def inHost (c : Char) : Bool :=
  0x20 < c.toNat && c.toNat < 0x7F && c.toNat != 0x60 &&
    !(['"', '%', '<', '>', '\\', '^', '\x7b', '|', '\x7d'].contains c)

end Target

def inUser (c : Char) : Bool :=
  inPath c || ['/', ':', ';', '=', '@', '[', '\\', ']', '^', '|'].contains c

/-- What stands of a user in the address of a request. A name and a password that are texts are told
in a header instead. -/
def Authority.sentUser (authority : Authority) : String :=
  let (name, password) := Read.cut ':' authority.user.toList
  let name := Text.Percent.encodeChars inUser name
  let password := (password.filter (· != [])).map (Text.Percent.encodeChars inUser)
  let isText (part : List Char) := (Text.decode? (Text.Percent.decode part)).isSome
  if isText name && (name != [] || password.all isText) then ""
  else String.ofList (name ++ password.elim [] (':' :: ·) ++ ['@'])

namespace Rooted

def isWeb (url : Rooted) : Bool :=
  (url.scheme == "http" || url.scheme == "https") && url.authority.any fun authority =>
    authority.host != .empty && authority.host.text.toList.all Target.inHost

/-- The bytes of the address that a request is sent to. -/
def addressSize (url : Rooted) : Nat :=
  url.text.utf8ByteSize + (url.authority.elim "" Authority.sentUser).utf8ByteSize

def isSendable (url : Rooted) : Bool :=
  url.isWeb && url.addressSize ≤ Target.sizeLimit

end Rooted

end BucketKeys.Url
