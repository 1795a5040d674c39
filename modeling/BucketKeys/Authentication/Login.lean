import BucketKeys.Fault
import BucketKeys.Dictionary
import BucketKeys.Json.Trouble

/-!
The credentials of the controller itself: a flat JSON object of texts, of which three keys count.
An empty text counts as missing.
-/

namespace BucketKeys.Authentication

/-- Credentials for the token service. Only the token is of use there. -/
structure Login where
  apiToken : Option String
  email : Option String
  apiKey : Option String
  deriving DecidableEq, Repr

namespace Login

def apiTokenKey : String := "api_token"

def emailKey : String := "email"

def apiKeyKey : String := "api_key"

def ofTexts (texts : Dictionary String) : Login :=
  let take (key : String) := (texts.get? key).filter (!·.isEmpty)
  ⟨take apiTokenKey, take emailKey, take apiKeyKey⟩

def unreadable (message : String) : Fault :=
  .credentialExtractionFailed ("cannot unmarshal cloudflare credentials as JSON: " ++ message)

def read (data : Bytes) : Except Fault Login :=
  match Json.texts data with
  | .ok texts => .ok (ofTexts (.ofList texts))
  | .error message => .error (unreadable message)

def token (login : Login) : Except Fault String :=
  match login.apiToken with
  | some token => .ok token
  | none => .error .noUsableCredential

/-- The keys that are present. -/
def configuration (login : Login) : Dictionary String :=
  let put (key : String) (value : Option String) (texts : Dictionary String) :=
    match value with
    | some value => texts.insert key value
    | none => texts
  put apiTokenKey login.apiToken <| put emailKey login.email <| put apiKeyKey login.apiKey {}

def shown (login : Login) : String :=
  let optional (text : Option String) :=
    match text with
    | some text => "Some(" ++ Text.Quoted.ofString text ++ ")"
    | none => "None"
  let redacted (secret : Option String) := optional (secret.map fun _ => "<redacted>")
  "CloudflareCredentials \x7b api_token: " ++ redacted login.apiToken ++
    ", email: " ++ optional login.email ++ ", api_key: " ++ redacted login.apiKey ++ " \x7d"

end Login

end BucketKeys.Authentication
