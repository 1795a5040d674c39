import BucketKeys.Metrics.Basic
import BucketKeys.Number.Shortest

/-!
Metrics as text: families in the order of their names, each with a help line, a type line and its
series. A family without series is left out.
-/

namespace BucketKeys.Metrics

structure Series where
  labels : List (String × String)
  value : Nat
  deriving DecidableEq, Repr

inductive Samples where
  | counter (series : List Series)
  | histogram (series : List (List (String × String) × Histogram))

structure Family where
  name : String
  help : String
  samples : Samples

def namePrefix : String := "cloudflare_provider_"

def labelled (label : String) (counts : Dictionary Nat) : List Series :=
  counts.entries.map fun entry => ⟨[(label, entry.1)], entry.2⟩

def families (metrics : Metrics) : List Family :=
  [⟨"api_operation_duration_seconds", "Duration of Cloudflare API calls in seconds",
     .histogram (metrics.apiSeconds.entries.map fun entry => ([("operation", entry.1)], entry.2))⟩,
   ⟨"api_operations_total", "Total number of Cloudflare API calls",
     .counter (metrics.apiCalls.entries.flatMap fun entry =>
       entry.2.entries.map fun outcome =>
         ⟨[("operation", entry.1), ("outcome", outcome.1)], outcome.2⟩)⟩,
   ⟨"external_resources_created_total", "Total number of external resources created",
     .counter [⟨[], metrics.created⟩]⟩,
   ⟨"external_resources_deleted_total", "Total number of external resources deleted",
     .counter [⟨[], metrics.deleted⟩]⟩,
   ⟨"rate_limited_total", "Total number of passes deferred by the global rate limiter",
     .counter [⟨[], metrics.rateLimited⟩]⟩,
   ⟨"reconciliation_duration_seconds", "Duration of reconciliation passes in seconds",
     .histogram [([], metrics.passSeconds)]⟩,
   ⟨"reconciliation_errors_total", "Total number of failed reconciliation passes",
     .counter (labelled "reason" metrics.failures)⟩,
   ⟨"reconciliations_total", "Total number of reconciliation passes",
     .counter [⟨[], metrics.passes⟩]⟩,
   ⟨"requeues_total", "Total number of reconciliation requeues",
     .counter (labelled "reason" metrics.requeues)⟩]

def escapeLabel (value : String) : String :=
  String.ofList <| value.toList.flatMap fun c =>
    if c = '\\' then ['\\', '\\']
    else if c = '"' then ['\\', '"']
    else if c = '\n' then ['\\', 'n']
    else [c]

def labelText (labels : List (String × String)) : String :=
  if labels.isEmpty then ""
  else
    "\x7b" ++ ",".intercalate (labels.map fun label =>
      label.1 ++ "=\"" ++ escapeLabel label.2 ++ "\"") ++ "\x7d"

def line (name : String) (labels : List (String × String)) (value : String) : String :=
  name ++ labelText labels ++ " " ++ value ++ "\n"

def floatText (value : Float) : String :=
  Number.positionalText value.toBits

/-- Each bucket together with all lower ones. -/
def bucketLines (name : String) (labels : List (String × String)) (soFar : Nat) :
    List Float → List Nat → String
  | bound :: bounds, bucket :: buckets =>
    line name (labels ++ [("le", floatText bound)]) (Text.decimal (soFar + bucket)) ++
      bucketLines name labels (soFar + bucket) bounds buckets
  | _, _ => ""

def histogramText (name : String) (labels : List (String × String)) (histogram : Histogram) :
    String :=
  bucketLines (name ++ "_bucket") labels 0 histogram.bounds histogram.buckets ++
    line (name ++ "_bucket") (labels ++ [("le", "+Inf")]) (Text.decimal histogram.count) ++
    line (name ++ "_sum") labels (floatText histogram.sum) ++
    line (name ++ "_count") labels (Text.decimal histogram.count)

def Samples.isEmpty : Samples → Bool
  | .counter series => series.isEmpty
  | .histogram series => series.isEmpty

def Samples.kind : Samples → String
  | .counter _ => "counter"
  | .histogram _ => "histogram"

def Samples.text (name : String) : Samples → String
  | .counter series =>
    String.join (series.map fun one => line name one.labels (Text.decimal one.value))
  | .histogram series => String.join (series.map fun one => histogramText name one.1 one.2)

def Family.text (family : Family) : String :=
  let name := namePrefix ++ family.name
  if family.samples.isEmpty then ""
  else
    "# HELP " ++ name ++ " " ++ family.help ++ "\n# TYPE " ++ name ++ " " ++ family.samples.kind ++
      "\n" ++ family.samples.text name

def text (metrics : Metrics) : String :=
  String.join (metrics.families.map Family.text)

def totals (metrics : Metrics) : List (String × Nat) :=
  metrics.families.flatMap fun family =>
    match family.samples with
    | .counter series => series.map fun one => (family.name ++ labelText one.labels, one.value)
    | .histogram _ => []

def increase (earlier later : Metrics) : List (String × Nat) :=
  let before := earlier.totals
  later.totals.filterMap fun total =>
    let grown := total.2 - (before.lookup total.1).getD 0
    if grown = 0 then none else some (total.1, grown)

end BucketKeys.Metrics
