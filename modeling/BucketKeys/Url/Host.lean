import BucketKeys.Number.Power
import BucketKeys.Text.Decimal
import BucketKeys.Url.Basic
import BucketKeys.Url.Domain

/-!
Reading hosts: names, IPv4 addresses in their many spellings, and IPv6 addresses in brackets.
-/

namespace BucketKeys.Url.Host

def valueIn? (base : Nat) (digits : List Char) : Option Nat :=
  digits.foldlM (fun value c => do
    let digit ← Text.hexValue? c
    if digit < base then return value * base + digit else none) 0

/-- Decimal, octal behind a zero, and hexadecimal behind a zero and an x. -/
def ipv4Number? : List Char → Option Nat
  | [] => none
  | '0' :: 'x' :: digits => valueIn? 16 digits
  | '0' :: 'X' :: digits => valueIn? 16 digits
  | ['0'] => some 0
  | '0' :: digits => valueIn? 8 digits
  | digits => valueIn? 10 digits

def significant (name : List Char) : List (List Char) :=
  let labels := Domain.labels name
  if labels.getLast? = some [] then labels.dropLast else labels

/-- Such a name is an IPv4 address or nothing. -/
def endsInNumber (name : List Char) : Bool :=
  match (significant name).getLast? with
  | some label => (!label.isEmpty && label.all Char.isDigit) || (ipv4Number? label).isSome
  | none => false

/-- All numbers but the last are bytes; the last fills the rest of the address. -/
def ipv4? (name : List Char) : Option Nat := do
  let labels := significant name
  guard (labels.length ≤ 4)
  let numbers ← labels.mapM ipv4Number?
  let last ← numbers.getLast?
  let leading := numbers.dropLast
  let room := Number.twoTo (8 * (4 - leading.length))
  guard (last < room ∧ leading.all (· < 256))
  return leading.foldl (fun address byte => address * 256 + byte) 0 * room + last

def ipv6Piece? (digits : List Char) : Option Nat := do
  guard (1 ≤ digits.length ∧ digits.length ≤ 4)
  valueIn? 16 digits

def dottedByte? (digits : List Char) : Option Nat := do
  guard (!digits.isEmpty ∧ (digits.length = 1 ∨ digits.head? ≠ some '0'))
  let value ← valueIn? 10 digits
  if value < 256 then return value else none

/-- The last two pieces may be written as an IPv4 address. -/
def dotted? (text : List Char) : Option (List Nat) := do
  match ← (Domain.labels text).mapM dottedByte? with
  | [a, b, c, d] => return [a * 256 + b, c * 256 + d]
  | _ => none

def pieces? (last : Bool) (text : List Char) : Option (List Nat) := do
  if text.isEmpty then return []
  let pieces := Text.pieces (· == ':') text
  match pieces.getLast? with
  | none => none
  | some final =>
    let leading ← pieces.dropLast.mapM ipv6Piece?
    if last && final.contains '.' then return leading ++ (← dotted? final)
    else return leading ++ [← ipv6Piece? final]

def splitGap? : List Char → Option (List Char × List Char)
  | ':' :: ':' :: rest => some ([], rest)
  | c :: rest => (splitGap? rest).map fun parts => (c :: parts.1, parts.2)
  | [] => none

/-- Eight pieces; a gap stands for at least one piece that is zero. -/
def ipv6? (text : List Char) : Option (List Nat) := do
  match splitGap? text with
  | none =>
    let pieces ← pieces? true text
    if pieces.length = 8 then return pieces else none
  | some (before, behind) =>
    let before ← pieces? false before
    let behind ← pieces? true behind
    let given := before.length + behind.length
    if given ≤ 7 then return before ++ List.replicate (8 - given) 0 ++ behind else none

def bracketed? (text : List Char) : Option Host := do
  match text.reverse with
  | ']' :: inner => return .ipv6 (← ipv6? (inner.reverse.drop 1))
  | _ => none

def isForbiddenVerbatim (c : Char) : Bool :=
  ['\x00', '\t', '\n', '\r', ' ', '#', '/', ':', '<', '>', '?', '@', '[', '\\', ']', '^', '|'].contains c

def special? (text : List Char) : Option Host :=
  if text.head? = some '[' then bracketed? text
  else do
    let name ← Domain.ofBytes? (Text.Percent.decode text)
    if name.isEmpty then none
    else if endsInNumber name then return .ipv4 (← ipv4? name)
    else return .domain (String.ofList name)

def verbatim? (text : List Char) : Option Host :=
  if text.isEmpty then some .empty
  else if text.head? = some '[' then bracketed? text
  else if text.any isForbiddenVerbatim then none
  else some (.verbatim (String.ofList (Text.Percent.encodeChars isControlOrForeign text)))

end BucketKeys.Url.Host
