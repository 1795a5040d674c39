import BucketKeys.Proofs.Course.Store
import BucketKeys.Proofs.Issuance.Knowledge

/-!
The annotations that a turn of a pass writes or leaves unsettled.
-/

namespace BucketKeys.Issuance

variable {act : Act} {stage last : Stage} {changes : Dictionary (Option String)}

/-- An act that neither creates a token nor writes an annotation. -/
structure Plain (act : Act) : Prop where
  created : created? act = none
  written : ∀ changes, written? act ≠ some (.annotations changes)
  unsettled : ∀ changes, unsettled? act ≠ some (.annotations changes)

theorem Act.Idle.plain (hidle : act.Idle) : Plain act := by
  cases hidle with
  | read | counted | paused => exact ⟨rfl, by rintro changes ⟨⟩, by rintro changes ⟨⟩⟩
  | reported copy answer =>
      cases answer with
      | ok done => exact ⟨rfl, by rintro changes ⟨⟩, by rintro changes ⟨⟩⟩
      | error fault => exact ⟨rfl, by rintro changes ⟨⟩, by rintro changes ⟨⟩⟩

theorem Act.Failed.written? (hfailed : act.Failed) : written? act = none := by
  cases hfailed <;> rfl

theorem Act.Failed.announcement {resource : Credentials} (hfailed : act.Failed)
    (hpermitted : ∀ call, act.call? = some call → permits resource stage call)
    (hunsettled : unsettled? act = some (.annotations changes)) : Announcement stage changes := by
  cases hfailed with
  | lost call =>
      cases call with
      | updateAnnotations copy other =>
          cases hunsettled
          exact (hpermitted _ rfl).2
      | _ => cases hunsettled
  | unannounced copy other fault =>
      cases hunsettled
      exact (hpermitted _ rfl).2
  | _ => cases hunsettled

theorem Turn.announcement {resource : Credentials} (hturn : Turn resource stage act last)
    (hwrites : Issuance.written? act = some (.annotations changes) ∨
      unsettled? act = some (.annotations changes)) : Announcement stage changes := by
  cases hturn with
  | idle stage idle =>
      rcases hwrites with hwritten | hunsettled
      · exact absurd hwritten (idle.plain.written changes)
      · exact absurd hunsettled (idle.plain.unsettled changes)
  | spent hpermitted failed =>
      rcases hwrites with hwritten | hunsettled
      · rw [failed.written?] at hwritten
        cases hwritten
      · exact failed.announcement hpermitted hunsettled
  | announced hlive now copy =>
      rcases hwrites with ⟨⟨⟩⟩ | ⟨⟨⟩⟩
      exact .pending now
  | failed hlive now copy answer =>
      cases answer with
      | ok done | error fault =>
          rcases hwrites with ⟨⟨⟩⟩ | ⟨⟨⟩⟩
          exact .failed now
  | recorded hlive token now copy | unrecorded hlive token now copy fault =>
      rcases hwrites with ⟨⟨⟩⟩ | ⟨⟨⟩⟩
      exact .succeeded token now
  | _ => rcases hwrites with ⟨⟨⟩⟩ | ⟨⟨⟩⟩

end BucketKeys.Issuance
