import BucketKeys.Issuance.Client
import BucketKeys.Proofs.Authentication.Sources
import BucketKeys.Proofs.Script.Likeness
import BucketKeys.Service

/-!
Which questions of a controller look the same, and which answers it is not to tell apart: its own
token and the values of the tokens it gets are secret.
-/

namespace BucketKeys

namespace Authentication

/-- The data are the same but for the token in them. -/
inductive Disguised : Bytes → Bytes → Prop where
  | same (data : Bytes) : Disguised data data
  | token {first second : Bytes} (texts : Dictionary String) {apiToken other : String}
      (given : apiToken ≠ "") (present : other ≠ "")
      (reads : texts? first = some (texts.insert Login.apiTokenKey apiToken))
      (others : texts? second = some (texts.insert Login.apiTokenKey other)) :
      Disguised first second

theorem Disguised.login {first second : Bytes} (hdisguised : Disguised first second) :
    Results (fun login other => login.apiToken.isSome = other.apiToken.isSome)
      (Login.read first) (Login.read second) := by
  cases hdisguised with
  | same => exact Results.same (fun login : Login => (rfl : login.apiToken.isSome = _)) _
  | token texts hgiven hpresent hreads hothers =>
      have hsome {value : String} (hfilled : value ≠ "") :
          (Login.ofTexts (texts.insert Login.apiTokenKey value)).apiToken = some value := by
        simp [Login.ofTexts, hfilled]
      rw [read_of_texts? hreads, read_of_texts? hothers]
      refine .ok ?_
      rw [hsome hgiven, hsome hpresent]
      rfl

def alike : (call other : Call) → Answer call → Answer other → Prop
  | .providerConfig _, .providerConfig _, answer, reply =>
      (answer : Except Fault ProviderConfigSpec) = reply
  | .track .., .track .., answer, reply => (answer : Except Fault Unit) = reply
  | .secretKey _, .secretKey _, answer, reply =>
      Results Disguised (answer : Except Fault Bytes) (reply : Except Fault Bytes)
  | .variable _, .variable _, answer, reply =>
      Results (fun text other => Disguised (Text.encode text) (Text.encode other))
        (answer : Except VariableFault String) (reply : Except VariableFault String)
  | .file _, .file _, answer, reply =>
      Results Disguised (answer : Except String Bytes) (reply : Except String Bytes)
  | _, _, _, _ => False

def likeness : Likeness interface where
  View := Call
  shown := id
  alike := alike

end Authentication

namespace Issuance

open TokenApi

def shown : Call → Call
  | .authenticate _ => .authenticate ""
  | call => call

/-- The token without its value. -/
def sealed (token : Token) : Token :=
  { token with value := none }

def alike : (call other : Call) → Answer call → Answer other → Prop
  | .authentication call, .authentication other, answer, reply =>
      Authentication.alike call other answer reply
  | .authenticate _, .authenticate _, _, _ => True
  | .listPermissionGroups, .listPermissionGroups, answer, reply =>
      (answer : Except Failure (List PermissionGroup)) = reply
  | .createToken _, .createToken _, answer, reply =>
      Results (fun token other => sealed token = sealed other)
        (answer : Except Failure Token) (reply : Except Failure Token)
  | .getToken _, .getToken _, answer, reply => (answer : Except Failure Token) = reply
  | .deleteToken _, .deleteToken _, answer, reply => (answer : Except Failure Unit) = reply
  | _, _, _, _ => False

/-- The token that authenticates the requests is not seen. -/
def likeness : Likeness interface where
  View := Call
  shown := shown
  alike := alike

def isSecret (name : String) : Bool :=
  name == secretKeyName || name == tokenValueName

def blanked (entry : String × Bytes) : String × Bytes :=
  if isSecret entry.1 then (entry.1, []) else entry

theorem blanked_fst (entry : String × Bytes) : (blanked entry).1 = entry.1 := by
  unfold blanked
  split
  · rfl
  · rfl

def redacted (details : ConnectionDetails) : ConnectionDetails where
  entries := details.entries.map blanked
  ascending := by
    simpa only [List.pairwise_map, blanked_fst] using details.ascending

theorem isEmpty_redacted (details : ConnectionDetails) :
    (redacted details).isEmpty = details.isEmpty := by
  simp [redacted, Dictionary.isEmpty]

theorem get?_redacted (name : String) (details : ConnectionDetails) :
    (redacted details).get? name =
      (details.get? name).map fun value => if isSecret name then [] else value := by
  have hkept : (fun entry : String × Bytes => (blanked entry).1 == name) = (·.1 == name) := by
    funext entry
    rw [blanked_fst]
  unfold Dictionary.get? redacted
  rw [List.find?_map, Option.map_map, Option.map_map]
  change Option.map _ (details.entries.find? fun entry => (blanked entry).1 == name) = _
  rw [hkept]
  cases hfound : details.entries.find? (·.1 == name) with
  | none => rfl
  | some entry =>
      have hnamed : entry.1 = name := by simpa using List.find?_some hfound
      simp only [Option.map_some, Function.comp_apply, blanked, hnamed]
      split
      · rfl
      · rfl

theorem redacted_connectionDetails (tokenId accountId : String) (value other : Option String) :
    redacted (connectionDetails tokenId value accountId) =
      redacted (connectionDetails tokenId other accountId) := by
  refine Dictionary.ext_get? fun name => ?_
  rw [get?_redacted, get?_redacted]
  unfold connectionDetails Dictionary.ofList
  simp only [List.foldl_cons, List.foldl_nil, Dictionary.get?_insert]
  by_cases hwhole : tokenValueName = name
  · subst hwhole
    simp [isSecret]
  · by_cases hdigest : secretKeyName = name
    · subst hdigest
      simp [isSecret, tokenValueName, endpointName, secretKeyName]
    · simp only [if_neg hwhole, if_neg hdigest]

end Issuance

namespace Pass

def shown : Call Issuance.interface → Call Issuance.interface
  | .remote call => .remote (Issuance.shown call)
  | .publish resource details => .publish resource (Issuance.redacted details)
  | call => call

def alike : (call other : Call Issuance.interface) → Answer call → Answer other → Prop
  | .remote call, .remote other, answer, reply => Issuance.alike call other answer reply
  | .updateAnnotations .., .updateAnnotations .., answer, reply =>
      (answer : Except Fault Unit) = reply
  | .updateFinalizers .., .updateFinalizers .., answer, reply =>
      (answer : Except Fault Unit) = reply
  | .updateStatus _, .updateStatus _, answer, reply => (answer : Except Fault Unit) = reply
  | .publish .., .publish .., answer, reply => (answer : Except Fault Unit) = reply
  | .pause _, .pause _, _, _ => True
  | _, _, _, _ => False

def likeness : Likeness (interface Issuance.interface) where
  View := Call Issuance.interface
  shown := shown
  alike := alike

end Pass

namespace Round

def shown : Call Issuance.interface → Call Issuance.interface
  | .within deadline call => .within deadline (Pass.shown call)
  | call => call

def alike : (call other : Call Issuance.interface) → Answer call → Answer other → Prop
  | .admission, .admission, answer, reply => (answer : Time.Span) = reply
  | .within _ call, .within _ other, answer,
      reply => Option.Rel (Pass.alike call other) answer reply
  | .recordFailure _, .recordFailure _, answer, reply => (answer : Except Fault Unit) = reply
  | _, _, _, _ => False

def likeness : Likeness (interface Issuance.interface) where
  View := Call Issuance.interface
  shown := shown
  alike := alike

end Round

namespace Service

def shown : Call Issuance.interface → Call Issuance.interface
  | .round call => .round (Round.shown call)
  | call => call

def alike : (call other : Call Issuance.interface) → Answer call → Answer other → Prop
  | .round call, .round other, answer, reply => Round.alike call other answer reply
  | .settled .., .settled .., answer, reply => (answer : Credentials) = reply
  | _, _, _, _ => False

/-- All is seen but the token that authenticates the requests and the secrets published. -/
def likeness : Likeness (interface Issuance.interface) where
  View := Call Issuance.interface
  shown := shown
  alike := alike

end Service

end BucketKeys
