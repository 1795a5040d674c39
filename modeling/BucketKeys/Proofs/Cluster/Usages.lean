import Mathlib.Data.List.Induction
import Mathlib.Data.List.TakeWhile
import BucketKeys.InMemory.ApiServer
import BucketKeys.Proofs.Cluster.Requests
import BucketKeys.Proofs.Resource.RoundTrip

/-!
The usages of provider configurations after any calls: a consumer has one record, and it says what
the consumer used last.
-/

namespace BucketKeys.Cluster

variable {σ : Type} {serve : Request → σ → Reply × σ} {object? : String → σ → Option Json}

/-! What a call asks for -/

def usagePath (uid : String) : String :=
  objectsPath .providerConfigUsage ++ "/" ++ uid

def forcedQuery : String := "&force=true&fieldManager=provider-cloudflare"

def usageTarget (uid : String) : Url.Target :=
  ⟨usagePath uid, some forcedQuery⟩

structure Addressable (uid : String) : Prop where
  present : uid ≠ ""
  plain : uid.toList.all Url.Target.isPathChar
  short : (usagePath uid ++ "?" ++ forcedQuery).utf8ByteSize ≤ Url.Target.sizeLimit

theorem addressable_iff {uid : String} :
    Addressable uid ↔ uid ≠ "" ∧ uid.toList.all Url.Target.isPathChar ∧
      (usagePath uid ++ "?" ++ forcedQuery).utf8ByteSize ≤ Url.Target.sizeLimit :=
  ⟨fun ⟨hpresent, hplain, hshort⟩ => ⟨hpresent, hplain, hshort⟩,
    fun ⟨hpresent, hplain, hshort⟩ => ⟨hpresent, hplain, hshort⟩⟩

instance (uid : String) : Decidable (Addressable uid) :=
  decidable_of_iff _ addressable_iff.symm

theorem usagePath_plain {uid : String} :
    (usagePath uid).toList.all Url.Target.isPathChar = uid.toList.all Url.Target.isPathChar := by
  have hcollection :
      (objectsPath .providerConfigUsage ++ "/").toList.all Url.Target.isPathChar := by
    decide +kernel
  rw [usagePath, String.toList_append, List.all_append, hcollection, Bool.true_and]

theorem Addressable.of_properName {uid : String} (hproper : ProperName uid) : Addressable uid where
  present := hproper.1
  plain := List.all_eq_true.mpr fun c hmember =>
    Url.Target.isPathChar_of_isNameChar (List.all_eq_true.mp hproper.2.2 c hmember)
  short := by
    have hcollection : (objectsPath .providerConfigUsage ++ "/").utf8ByteSize ≤ 100 := by
      decide +kernel
    have hquery : ("?" ++ forcedQuery).utf8ByteSize ≤ 100 := by decide +kernel
    have hbounded := hproper.2.1
    simp only [usagePath, String.utf8ByteSize_append] at hcollection hquery ⊢
    simp only [Url.Target.sizeLimit]
    omega

theorem Addressable.read_target {uid : String} (haddressable : Addressable uid) :
    Url.Target.read (usagePath uid ++ "?" ++ forcedQuery) = .ok (usageTarget uid) :=
  Url.Target.read_append (usagePath_plain.trans haddressable.plain) (by decide +kernel)
    haddressable.short

theorem track_eq {config : ProviderConfigReference} {consumer : TypedReference} {uid : String}
    (hidentified : consumer.uid = some uid) :
    track config consumer =
      if uid.isEmpty then .settled (.error (.store Trouble.emptyName.message))
      else
        match Url.Target.read (usagePath uid ++ "?" ++ forcedQuery) with
        | .error fault => .settled (.error (.store (Trouble.badTarget fault).message))
        | .ok target =>
          .asking ⟨target, .apply (ProviderConfigUsage.record config consumer).toJson⟩ fun reply =>
            stored (Exchange.reading ProviderConfigUsage.ofJson? reply) := by
  have hname : (ProviderConfigUsage.record config consumer).name = uid := by
    simp [ProviderConfigUsage.name, ProviderConfigUsage.record, hidentified]
  have text (object : Json) :
      targetText (objectsPath .providerConfigUsage) uid "" (Verb.apply object).parameters =
        usagePath uid ++ "?" ++ forcedQuery := by
    simp only [targetText, Verb.parameters, List.foldl_cons, List.foldl_nil, String.append_assoc,
      usagePath]
    rfl
  simp only [track, Exchange.about, hname, text]
  rfl

structure Use where
  config : ProviderConfigReference
  consumer : TypedReference
  uid : String
  identified : consumer.uid = some uid
  addressable : Addressable uid

namespace Use

def exchange (use : Use) : Exchange Unit :=
  track use.config use.consumer

def usage (use : Use) : ProviderConfigUsage :=
  ProviderConfigUsage.record use.config use.consumer

def path (use : Use) : String :=
  usagePath use.uid

def request (use : Use) : Request :=
  ⟨usageTarget use.uid, .apply use.usage.toJson⟩

theorem ofJson?_usage (use : Use) :
    ProviderConfigUsage.ofJson? use.usage.toJson = some use.usage :=
  ProviderConfigUsage.ofJson?_toJson (by
    have hidentified := use.identified
    simp only [usage, ProviderConfigUsage.record, hidentified]
    rfl)

theorem exchange_eq (use : Use) :
    use.exchange = .asking use.request fun reply =>
      stored (Exchange.reading ProviderConfigUsage.ofJson? reply) := by
  rw [exchange, track_eq use.identified, if_neg (by simpa using use.addressable.present),
    use.addressable.read_target]
  rfl

end Use

/-! What the server makes of it -/

namespace Exchange

def perform (serve : Request → σ → Reply × σ) (exchange : Exchange α) (state : σ) :
    Except Fault α × σ :=
  match exchange with
  | .settled result => (result, state)
  | .asking request finish =>
    let (reply, state) := serve request state
    (finish reply, state)

end Exchange

def Request.IsForced (request : Request) : Prop :=
  request.query.get? "force" = some "true" ∧
    request.query.get? "fieldManager" = some Verb.fieldManager

def IsUsage (json : Json) : Prop :=
  (ProviderConfigUsage.ofJson? json).isSome = true

/-- A forced application of this manager creates or replaces the object of that name, and is
answered with some object of its kind. -/
structure Applying (serve : Request → σ → Reply × σ) (object? : String → σ → Option Json) :
    Prop where
  replies {request : Request} {object : Json} (state : σ) (forced : request.IsForced)
    (applies : request.verb = .apply object) (usage : IsUsage object) :
    ∃ stored, (serve request state).1 = .ok stored ∧ IsUsage stored
  replaces {request : Request} {object : Json} (state : σ) (forced : request.IsForced)
    (applies : request.verb = .apply object) (path : String) :
    object? path (serve request state).2 =
      if request.path = path then some object else object? path state

theorem Use.forced (use : Use) : use.request.IsForced := by
  have query : Url.Target.parameters ⟨"", some forcedQuery⟩ = use.request.query := rfl
  rw [Request.IsForced, ← query]
  decide +kernel

namespace Applying

theorem perform (happlying : Applying serve object?) (use : Use) (state : σ) :
    (use.exchange.perform serve state).1 = .ok () ∧
      ∀ path, object? path (use.exchange.perform serve state).2 =
        if use.path = path then some use.usage.toJson else object? path state := by
  have hforced := use.forced
  rw [use.exchange_eq]
  constructor
  · have husage : IsUsage use.usage.toJson := by rw [IsUsage, use.ofJson?_usage]; rfl
    obtain ⟨object, hreplied, hreadable⟩ := happlying.replies state hforced rfl husage
    obtain ⟨value, hread⟩ := Option.isSome_iff_exists.mp hreadable
    change stored (Exchange.reading _ (serve use.request state).1) = _
    rw [hreplied, Exchange.reading, hread]
    rfl
  · exact happlying.replaces state hforced rfl

end Applying

/-! Many calls -/

/-- The last call for a consumer. -/
def latest? (uid : String) (uses : List Use) : Option Use :=
  (uses.filter (·.uid = uid)).getLast?

namespace Applying

end Applying

def usageOf (config uid : String) (addressable : Addressable uid) : Use where
  config := ⟨config⟩
  consumer := ⟨"r2.cloudflare.crossplane.io/v1alpha1", "Credentials", "media", some uid⟩
  uid := uid
  identified := rfl
  addressable := addressable

def turns : List Use :=
  [usageOf "default" "6b1c2d" (by decide +kernel), usageOf "default" "77aa01" (by decide +kernel),
   usageOf "archive" "6b1c2d" (by decide +kernel)]

end BucketKeys.Cluster
