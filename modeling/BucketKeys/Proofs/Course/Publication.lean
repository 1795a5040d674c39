import BucketKeys.Proofs.Course.Naming
import BucketKeys.Proofs.Course.Performance

/-!
The details of a token reach the publisher in the round that created the token, or never. A later
round sees the token, and reports that all is well.
-/

namespace BucketKeys

namespace Credentials

def conditionStatus? (type : String) (resource : Credentials) : Option String :=
  (resource.status.bind fun status => Condition.find? type status.conditions).map (·.status)

/-- The status says that the token can be used, and that the last round went well. -/
def Healthy (resource : Credentials) : Prop :=
  resource.conditionStatus? Condition.ready = some "True" ∧
    resource.conditionStatus? Condition.synced = some "True"

end Credentials

namespace Issuance

open TokenApi

variable {edits : Credentials → Credentials → Prop} {start : Credentials} {state : State}
  {task : Option Task}

def Supplied (id : String) (acts : List Act) : Prop :=
  ∃ details ∈ accepted acts, details.get? accessKeyName = some (Text.encode id)

theorem accessKey_detailsOf (resource : Credentials) (token : Token) :
    (detailsOf resource token).get? accessKeyName = some (Text.encode token.id) := by
  simp [detailsOf, connectionDetails, Dictionary.ofList, Dictionary.get?_insert, accessKeyName,
    secretKeyName, endpointName, tokenValueName]

theorem supplied_iff (hcourse : Course edits start state task) (id : String) :
    Supplied id state.history ↔ ∃ chapter ∈ state.chapters, ∃ token ∈ created chapter.acts,
      token.id = id ∧ detailsOf chapter.resource token ∈ accepted chapter.acts := by
  constructor
  · intro hknown
    obtain ⟨details, hmember, hkey⟩ := hknown
    obtain ⟨chapter, hround, hmember⟩ := State.mem_filterMap_history.mp hmember
    obtain ⟨token, hcreates, rfl⟩ :=
        created_of_accepted (hcourse.lawful chapter hround).kept hmember
    rw [accessKey_detailsOf] at hkey
    exact ⟨chapter, hround, token, hcreates, Text.encode_injective (Option.some.inj hkey), hmember⟩
  · intro hknown
    obtain ⟨chapter, hround, token, hcreates, rfl, hmember⟩ := hknown
    exact ⟨_, State.mem_filterMap_history.mpr ⟨chapter, hround, hmember⟩,
      accessKey_detailsOf chapter.resource token⟩

/-- The token that a resource is bound to was created by a round of the course, and its details were
accepted at any time only if such a round got them accepted. A round that created a token and
finished did. -/
theorem publication_settled_by_creation (course : Course edits start state task)
    (unbound : start.externalName? = none)
    (externalName : ∀ old new, edits old new → new.externalName? = old.externalName?) {id : String}
    (bound : state.stored.externalName? = some id) :
    (∃ chapter ∈ state.chapters, ∃ token ∈ created chapter.acts, token.id = id) ∧
      (Supplied id state.history ↔ ∃ chapter ∈ state.chapters, ∃ token ∈ created chapter.acts,
        token.id = id ∧ detailsOf chapter.resource token ∈ accepted chapter.acts) ∧
      ∀ chapter ∈ state.chapters, ∀ token ∈ created chapter.acts, ∀ action,
        chapter.outcome = some (.finished action) →
          detailsOf chapter.resource token ∈ accepted chapter.acts := by
  have hnamed := course.named unbound externalName
  refine ⟨?_, supplied_iff course id, fun chapter hround token hcreates action hfinished => ?_⟩
  · obtain ⟨token, hcreates, hsame⟩ := hnamed.origin id (hnamed.current id bound)
    obtain ⟨chapter, hround, hcreates⟩ := State.mem_filterMap_history.mp hcreates
    exact ⟨chapter, hround, token, hcreates, hsame⟩
  · have hlawful := course.lawful chapter hround
    exact accepted_of_complete hlawful.kept (hlawful.complete action hfinished) hcreates

def issued : State :=
  (State.initial applicant).perform 1717200000 (obliging none (tokenNamed "first")) habits

theorem publication_settled_by_creation_issued :
    issued.stored.externalName? = some "first" ∧ Supplied "first" issued.history := by
  have hcourse : Course Eq applicant issued none :=
    Course.initial.performs 1717200000 (obliging none (tokenNamed "first")) habits
  have hbound : issued.stored.externalName? = some "first" := by decide +kernel
  have hfinished : ∃ action, issued.present.outcome = some (.finished action) :=
    ⟨.requeue (.ofSeconds 30), by decide +kernel⟩
  have hcreations : created issued.present.acts = [tokenNamed "first"] := by decide +kernel
  obtain ⟨-, hsettled, hdelivered⟩ := publication_settled_by_creation hcourse rfl
    (fun old new hsame => hsame ▸ rfl) hbound
  obtain ⟨action, hfinished⟩ := hfinished
  have hmember : tokenNamed "first" ∈ created issued.present.acts := by
    rw [hcreations]
    exact List.mem_singleton.mpr rfl
  exact ⟨hbound, hsettled.mpr ⟨issued.present, List.mem_cons_self, tokenNamed "first", hmember, rfl,
    hdelivered issued.present List.mem_cons_self _ hmember action hfinished⟩⟩

def unpublishing (known : Option Token) (fresh : Token) :
    (call : Pass.Call interface) → Pass.Answer call
  | .publish .. => Except.error (.connectionPublishFailed "no publisher")
  | call => obliging known fresh call

def unpublished : State :=
  ((State.initial applicant).perform 1717200000 (unpublishing none (tokenNamed "first"))
    habits).perform 1717200100 (obliging (some (tokenNamed "first")) (tokenNamed "second")) habits

/-- Not every resource that is healthy has been supplied with the details of its token. -/
theorem healthy_unsupplied :
    applicant.externalName? = none ∧ applicant.spec.writeConnectionSecretToRef.isSome = true ∧
      ¬ ∀ state task, Course Eq applicant state task → state.stored.Healthy →
        ∀ id, state.stored.externalName? = some id → Supplied id state.history := by
  refine ⟨rfl, rfl, fun hsupplied => ?_⟩
  have hcourse : Course Eq applicant unpublished none :=
    (Course.initial.performs 1717200000 (unpublishing none (tokenNamed "first")) habits).performs
      1717200100 (obliging (some (tokenNamed "first")) (tokenNamed "second")) habits
  have healthy : unpublished.stored.Healthy := ⟨by decide +kernel, by decide +kernel⟩
  have hbound : unpublished.stored.externalName? = some "first" := by decide +kernel
  have none : accepted unpublished.history = [] := by decide +kernel
  obtain ⟨details, hmember, -⟩ := hsupplied unpublished _ hcourse healthy "first" hbound
  rw [none] at hmember
  cases hmember

end Issuance

end BucketKeys
