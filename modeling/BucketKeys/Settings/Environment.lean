import BucketKeys.Dictionary
import BucketKeys.Text.Decimal
import BucketKeys.Text.Quoted
import BucketKeys.Text.Utf8

/-!
The environment of the process: byte strings under names.
-/

namespace BucketKeys

abbrev Environment := Dictionary Bytes

inductive VariableFault where
  | notPresent
  | notText (value : Bytes)
  deriving DecidableEq, Repr

namespace VariableFault

def message : VariableFault → String
  | notPresent => "environment variable not found"
  | notText value =>
    "environment variable was not valid unicode: " ++ Text.Quoted.ofGlyphs (Text.glyphs value)

end VariableFault

namespace Environment

/-- No variable has an empty name or one with an equals sign or a zero character. -/
def isName (name : String) : Bool :=
  !name.isEmpty && name.toList.all fun c => c != '=' && c != '\x00'

def read (environment : Environment) (name : String) : Except VariableFault String :=
  match if isName name then environment.get? name else none with
  | none => .error .notPresent
  | some value =>
    match Text.decode? value with
    | some text => .ok text
    | none => .error (.notText value)

/-- The text of a variable; one that is no text counts as unset. -/
def text? (environment : Environment) (name : String) : Option String :=
  (environment.read name).toOption

/-- A number below a bound; anything else counts as unset. -/
def number? (environment : Environment) (name : String) (bound : Nat) : Option Nat :=
  (environment.text? name).bind (Text.readNat? bound)

end Environment

end BucketKeys
