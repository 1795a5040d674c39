import BucketKeys.Proofs.Course.Announcements
import BucketKeys.Proofs.Course.Performance
import BucketKeys.Proofs.Course.Readings

/-!
A token is created only after the one created before it was seen to be gone.
-/

namespace BucketKeys.Issuance

open Bookkeeping TokenApi

open Credentials (SameBookkeeping OutcomeKey)

open Time (Instant)

/-! What is remembered of the last creation -/

/-- A text that was made of a reading of the clock. -/
def Dated (state : State) (text : String) : Prop :=
  ∃ now ∈ readings state.history, text = Time.Rfc3339.stamp now

/-- A patch that does no harm to what is remembered of the last creation. -/
structure Fits (state : State) (changes : Dictionary (Option String)) : Prop where
  stamps : ∀ key, OutcomeKey key → ∀ value, changes.get? key = some value →
    ∃ text, value = some text ∧ Dated state text
  names : ∀ token, latest? state.history = some token →
    ∀ value, changes.get? externalNameKey = some value → value = some token.id
  claims : ∀ token, latest? state.history = some token →
    state.stored.externalName? = some token.id ∨
      changes.get? externalNameKey = some (some token.id)

/-- The token created last is the one that the stored resource names, or else its creation counts as
incomplete, and remains so until its name is written. -/
structure Remembers (state : State) : Prop where
  stamps : ∀ key, OutcomeKey key → ∀ text, state.stored.annotationOf? key = some text →
    Dated state text
  late : ∀ changes, .annotations changes ∈ state.late → Fits state changes
  claimed : ∀ token, latest? state.history = some token →
    state.stored.externalName? = some token.id ∨ state.stored.createIncomplete = true

def Assigned (state : State) : Prop :=
  ∀ token, latest? state.history = some token → state.stored.externalName? = some token.id

variable {state : State} {act : Act} {stage last : Stage} {changes : Dictionary (Option String)}

theorem Remembers.store_same (hremembers : Remembers state) {resource : Credentials}
    (hsame : SameBookkeeping resource state.stored) : Remembers (state.store resource) where
  stamps key houtcome text present := by
    refine hremembers.stamps key houtcome text ?_
    rcases houtcome with rfl | rfl
    · exact hsame.succeeded ▸ present
    · exact hsame.failed ▸ present
  late changes member := by
    have hfits := hremembers.late changes member
    refine ⟨hfits.stamps, hfits.names, fun token latest => ?_⟩
    rw [show (state.store resource).stored.externalName? = _ from hsame.externalName?]
    exact hfits.claims token latest
  claimed token latest := by
    rw [show (state.store resource).stored.externalName? = _ from hsame.externalName?,
      show (state.store resource).stored.createIncomplete = _ from hsame.createIncomplete]
    exact hremembers.claimed token latest

theorem Fits.assigned (hfits : Fits state changes) (horderly : Orderly state.history) :
    Assigned (state.store (state.stored.patchAnnotations changes)) := by
  intro token hlatest
  have hnamed := horderly.named_latest hlatest
  cases hfound : changes.get? externalNameKey with
  | none =>
      rw [show (state.store (state.stored.patchAnnotations changes)).stored.externalName? = _ from
        Credentials.externalName?_patchAnnotations_of_none hfound]
      rcases hfits.claims token hlatest with hclaimed | hclaims
      · exact hclaimed
      · rw [hfound] at hclaims
        cases hclaims
  | some value =>
      rw [hfits.names token hlatest value hfound] at hfound
      exact Credentials.externalName?_patchAnnotations_of_some hnamed hfound

theorem Remembers.patch (hremembers : Remembers state) (hfits : Fits state changes)
    (horderly : Orderly state.history) :
    Remembers (state.store (state.stored.patchAnnotations changes)) where
  stamps key houtcome text present := by
    rw [show (state.store (state.stored.patchAnnotations changes)).stored.annotationOf? key = _ from
      Credentials.annotationOf?_patchAnnotations changes key state.stored] at present
    cases hfound : changes.get? key with
    | none =>
        rw [hfound] at present
        exact hremembers.stamps key houtcome text present
    | some value =>
        obtain ⟨other, rfl, hdated⟩ := hfits.stamps key houtcome value hfound
        rw [hfound] at present
        cases present
        exact hdated
  late other member := by
    have hknown := hremembers.late other member
    exact ⟨hknown.stamps, hknown.names, fun token latest =>
      .inl (hfits.assigned horderly token latest)⟩
  claimed token latest := .inl (hfits.assigned horderly token latest)

theorem Dated.note {text : String} (hdated : Dated state text) : Dated (state.note act) text := by
  obtain ⟨now, hmember, hsame⟩ := hdated
  exact ⟨now, mem_readings_cons hmember, hsame⟩

theorem latest?_note (hnone : created? act = none) :
    latest? (state.note act).history = latest? state.history := by
  rw [State.history_note, latest?_cons, hnone]
  rfl

theorem Fits.note (hfits : Fits state changes) (hnone : created? act = none) :
    Fits (state.note act) changes where
  stamps key outcome value hfound := by
    obtain ⟨text, hsame, hdated⟩ := hfits.stamps key outcome value hfound
    exact ⟨text, hsame, hdated.note⟩
  names token hlatest := hfits.names token (latest?_note hnone ▸ hlatest)
  claims token hlatest := hfits.claims token (latest?_note hnone ▸ hlatest)

theorem Remembers.note (hremembers : Remembers state) (hnone : created? act = none)
    (hfits : ∀ changes, unsettled? act = some (.annotations changes) → Fits state changes) :
    Remembers (state.note act) where
  stamps key outcome text hpresent := (hremembers.stamps key outcome text hpresent).note
  late changes hmember := by
    rcases List.mem_append.mp hmember with hfresh | hknown
    · exact (hfits changes (Option.mem_toList.mp hfresh)).note hnone
    · exact (hremembers.late changes hknown).note hnone
  claimed token hlatest := hremembers.claimed token (latest?_note hnone ▸ hlatest)

/-! What holds at each stage -/

namespace Stage

def isEarly : Stage → Bool
  | failing _ => false
  | recording _ _ => false
  | recorded _ => false
  | delivered _ => false
  | spent => false
  | _ => true

def isSettled : Stage → Bool
  | announced => false
  | chosen _ => false
  | refused => false
  | created _ => false
  | stage => stage.isEarly

def isCreating : Stage → Bool
  | announcing _ => true
  | announced => true
  | chosen _ => true
  | refused => true
  | failing _ => true
  | _ => false

def isAnnounced : Stage → Bool
  | announced => true
  | chosen _ => true
  | _ => false

def time? : Stage → Option Instant
  | failing now => some now
  | recording _ now => some now
  | _ => none

theorem isSettled_of_isVacant {resource : Credentials}
    (hvacant : stage.isVacant resource = true) : stage.isSettled = true := by
  cases stage <;> simp_all [isVacant, isSettled, isEarly]

theorem isSettled_of_isHeld {resource : Credentials} (hisHeld : stage.isHeld resource = true) :
    stage.isSettled = true := by
  cases stage <;> simp_all [Stage.isHeld, isVacant, isSettled, isEarly]

theorem isEarly_of_isSettled (hsettled : stage.isSettled = true) : stage.isEarly = true := by
  cases stage <;> simp_all [isSettled, isEarly]

theorem isEarly_of_isAnnounced (hannounced : stage.isAnnounced = true) :
    stage.isEarly = true := by
  cases stage <;> simp_all [isAnnounced, isEarly]

end Stage

theorem Custody.isSettled {resource : Credentials} {finalizers : List String}
    (hcustody : Custody resource stage finalizers) : stage.isSettled = true := by
  cases hcustody with
  | taken hlive hmissing hobserved =>
      rcases hobserved with rfl | hvacant
      · rfl
      · exact Stage.isSettled_of_isVacant hvacant
  | orphaned hdeleting hpolicy => rfl
  | released hdeleting hgone => exact Stage.isSettled_of_isVacant hgone

/-- What a pass relies on at a stage. -/
structure Poised (state : State) (stage : Stage) : Prop where
  unwritten : stage.isEarly = true → ∀ changes, .annotations changes ∉ state.late
  settled : stage.isSettled = true → SameBookkeeping state.stored state.present.resource
  assigned : stage.isCreating = true → Assigned state
  announced : stage.isAnnounced = true → state.stored.createIncomplete = true ∧
    state.stored.externalName? = state.present.resource.externalName?
  announcing : ∀ now, stage = .announcing now → now ∈ readings state.history ∧
    ∀ key, OutcomeKey key → ∀ text, state.stored.annotationOf? key = some text →
      ∃ sooner ∈ readings state.history, sooner < now ∧ text = Time.Rfc3339.stamp sooner
  timed : ∀ now, stage.time? = some now → now ∈ readings state.history
  latest : ∀ token, stage.token? = some token → latest? state.history = some token

theorem Poised.start (hunwritten : state.late = [])
    (hsame : SameBookkeeping state.stored state.present.resource) : Poised state .start where
  unwritten _ changes := by simp [hunwritten]
  settled _ := hsame
  assigned := by simp [Stage.isCreating]
  announced := by simp [Stage.isAnnounced]
  announcing := by simp
  timed := by simp [Stage.time?]
  latest := by simp [Stage.token?]

theorem Poised.of_written (hwritten : stage.isEarly = false)
    (hassigned : stage.isCreating = true → Assigned state)
    (htimed : ∀ now, stage.time? = some now → now ∈ readings state.history)
    (hlatest : ∀ token, stage.token? = some token → latest? state.history = some token) :
    Poised state stage where
  unwritten hearly := by simp [hwritten] at hearly
  settled hsettled := by simp [Stage.isEarly_of_isSettled hsettled] at hwritten
  assigned := hassigned
  announced hannounced := by simp [Stage.isEarly_of_isAnnounced hannounced] at hwritten
  announcing now hhere := by simp [hhere, Stage.isEarly] at hwritten
  timed := htimed
  latest := hlatest

theorem Poised.spent : Poised state .spent :=
  .of_written rfl (by simp [Stage.isCreating]) (by simp [Stage.time?]) (by simp [Stage.token?])

theorem Poised.store_same (hpoised : Poised state stage) {resource : Credentials}
    (hsame : SameBookkeeping resource state.stored) : Poised (state.store resource) stage where
  unwritten := hpoised.unwritten
  settled hsettled := hsame.trans (hpoised.settled hsettled)
  assigned hcreating token hlatest :=
    hsame.externalName?.trans (hpoised.assigned hcreating token hlatest)
  announced hannounced :=
    ⟨hsame.createIncomplete.trans (hpoised.announced hannounced).1,
      hsame.externalName?.trans (hpoised.announced hannounced).2⟩
  announcing now hhere := by
    refine ⟨(hpoised.announcing now hhere).1, fun key houtcome text hpresent => ?_⟩
    refine (hpoised.announcing now hhere).2 key houtcome text ?_
    rcases houtcome with rfl | rfl
    · exact hsame.succeeded ▸ hpresent
    · exact hsame.failed ▸ hpresent
  timed := hpoised.timed
  latest := hpoised.latest

theorem Poised.patch (hpoised : Poised state stage) (hwritten : stage.isEarly = false)
    (hfits : Fits state changes) (horderly : Orderly state.history) :
    Poised (state.store (state.stored.patchAnnotations changes)) stage :=
  .of_written hwritten (fun _ => hfits.assigned horderly) hpoised.timed hpoised.latest

theorem Poised.note (hpoised : Poised state stage) (hnone : created? act = none)
    (hunwritten : stage.isEarly = true → ∀ changes, unsettled? act ≠ some (.annotations changes)) :
    Poised (state.note act) stage where
  unwritten hearly changes hmember := by
    rcases List.mem_append.mp hmember with hfresh | hknown
    · exact hunwritten hearly changes (Option.mem_toList.mp hfresh)
    · exact hpoised.unwritten hearly changes hknown
  settled := hpoised.settled
  assigned hcreating token hlatest :=
    hpoised.assigned hcreating token (latest?_note hnone ▸ hlatest)
  announced := hpoised.announced
  announcing now hhere := by
    refine ⟨mem_readings_cons (hpoised.announcing now hhere).1, fun key houtcome text hpresent => ?_⟩
    obtain ⟨sooner, hmember, hbefore, hsame⟩ :=
      (hpoised.announcing now hhere).2 key houtcome text hpresent
    exact ⟨sooner, mem_readings_cons hmember, hbefore, hsame⟩
  timed now hhere := mem_readings_cons (hpoised.timed now hhere)
  latest token hhere := (latest?_note hnone).trans (hpoised.latest token hhere)

/-- Where no time is at hand, a stage relies on no more than one it can follow. -/
theorem Poised.shift (hpoised : Poised state stage)
    (hearly : last.isEarly = true → stage.isEarly = true)
    (hsettled : last.isSettled = true → stage.isSettled = true)
    (hcreating : last.isCreating = true → stage.isCreating = true)
    (hannounced : last.isAnnounced = true → stage.isAnnounced = true)
    (htoken : ∀ token, last.token? = some token → stage.token? = some token)
    (hunannounced : ∀ now, last ≠ .announcing now) (huntimed : last.time? = none) :
    Poised state last where
  unwritten hhere := hpoised.unwritten (hearly hhere)
  settled hhere := hpoised.settled (hsettled hhere)
  assigned hhere := hpoised.assigned (hcreating hhere)
  announced hhere := hpoised.announced (hannounced hhere)
  announcing now hhere := absurd hhere (hunannounced now)
  timed now hhere := by simp [huntimed] at hhere
  latest token hhere := hpoised.latest token (htoken token hhere)

theorem Poised.older {now : Instant} (hpoised : Poised state (.announcing now))
    (horderly : Orderly state.history) (key : String) (houtcome : OutcomeKey key) (time : Instant)
    (hrecorded : state.stored.annotationTime? key = some time) : time < now := by
  obtain ⟨text, hpresent, hread⟩ := Option.bind_eq_some_iff.mp hrecorded
  obtain ⟨sooner, hmember, hbefore, rfl⟩ :=
    (hpoised.announcing now rfl).2 key houtcome text hpresent
  rw [Time.Rfc3339.read?_stamp (horderly.regular sooner hmember)] at hread
  cases hread
  exact hbefore

/-! One turn -/

theorem Plain.hear (hplain : Plain act) (state : State) :
    state.hear act = state.note act ∨ ∃ resource, state.hear act = (state.note act).store resource ∧
      SameBookkeeping resource (state.note act).stored := by
  unfold State.hear
  cases hwritten : written? act with
  | none => exact .inl rfl
  | some write =>
      rcases write.annotations_or_same (state.note act).stored with ⟨changes, rfl⟩ | hsame
      · exact absurd hwritten (hplain.written changes)
      · exact .inr ⟨_, rfl, hsame⟩

theorem Remembers.plain (hremembers : Remembers state) (hplain : Plain act) :
    Remembers (state.hear act) := by
  have hnoted := hremembers.note hplain.created fun changes hunsettled =>
    absurd hunsettled (hplain.unsettled changes)
  rcases hplain.hear state with hsame | ⟨resource, hsame, hbookkeeping⟩
  · rw [hsame]
    exact hnoted
  · rw [hsame]
    exact hnoted.store_same hbookkeeping

theorem Poised.plain (hpoised : Poised state stage) (hplain : Plain act) :
    Poised (state.hear act) stage := by
  have hnoted := hpoised.note hplain.created fun _ => hplain.unsettled
  rcases hplain.hear state with hsame | ⟨resource, hsame, hbookkeeping⟩
  · rw [hsame]
    exact hnoted
  · rw [hsame]
    exact hnoted.store_same hbookkeeping

theorem Announcement.fits (hannouncement : Announcement stage changes)
    (hpoised : Poised state stage)
    (horderly : Orderly state.history) : Fits state changes := by
  cases hannouncement with
  | pending now =>
      refine ⟨fun key houtcome value hfound => ?_, fun token hlatest value hfound => ?_,
        fun token hlatest => .inl (hpoised.assigned rfl token hlatest)⟩
      · have other : pendingKey ≠ key := by rcases houtcome with rfl | rfl <;> decide
        simp [other] at hfound
      · simp [pendingKey, externalNameKey] at hfound
  | failed now =>
      refine ⟨fun key houtcome value hfound => ?_, fun token hlatest value hfound => ?_,
        fun token hlatest => .inl (hpoised.assigned rfl token hlatest)⟩
      · rw [Dictionary.get?_singleton] at hfound
        split at hfound
        · cases hfound
          exact ⟨_, rfl, now, hpoised.timed now rfl, rfl⟩
        · cases hfound
      · simp [failedKey, externalNameKey] at hfound
  | succeeded token now =>
      have hlatest := hpoised.latest token rfl
      have hname := get?_successAnnotations_externalName (Time.Rfc3339.stamp now)
        (recordedName token)
      rw [recordedName_of_ne (horderly.named_latest hlatest), Option.map_some] at hname
      refine ⟨fun key houtcome value hfound => ?_, fun other last value hfound => ?_,
        fun other last => .inr ?_⟩
      · rw [get?_successAnnotations_outcome houtcome] at hfound
        split at hfound
        · cases hfound
          exact ⟨_, rfl, now, hpoised.timed now rfl, rfl⟩
        · cases hfound
      · cases hlatest.symm.trans last
        rw [recordedName_of_ne (horderly.named_latest hlatest)] at hfound
        exact Option.some.inj (hfound.symm.trans hname)
      · cases hlatest.symm.trans last
        rw [recordedName_of_ne (horderly.named_latest hlatest)]
        exact hname

theorem Remembers.assigned (hremembers : Remembers state) {resource : Credentials}
    (hsettled : SameBookkeeping state.stored resource) (hlive : resource.isDeleting = false)
    (hadmitted : resource.Open) : Assigned state := by
  intro token hlatest
  rcases hremembers.claimed token hlatest with hclaimed | hincomplete
  · exact hclaimed
  · rw [hsettled.createIncomplete, hadmitted.2.2 hlive] at hincomplete
    cases hincomplete

theorem Poised.announce {now : Instant} (hpoised : Poised state stage)
    (hsettled : stage.isSettled = true) (hassigned : Assigned state)
    (hremembers : Remembers state) (horderly : Orderly (.read now :: state.history)) :
    Poised (state.hear (.read now)) (.announcing now) where
  unwritten _ := (hpoised.plain (Act.Idle.read now).plain).unwritten
    (Stage.isEarly_of_isSettled hsettled)
  settled _ := (hpoised.plain (Act.Idle.read now).plain).settled hsettled
  assigned _ token hlatest := hassigned token hlatest
  announced := by simp [Stage.isAnnounced]
  announcing other hsame := by
    cases hsame
    refine ⟨List.mem_cons_self, fun key houtcome text hpresent => ?_⟩
    obtain ⟨earlier, hmember, hmade⟩ := hremembers.stamps key houtcome text hpresent
    exact ⟨earlier, mem_readings_cons hmember, horderly.sooner earlier hmember, hmade⟩
  timed := by simp [Stage.time?]
  latest := by simp [Stage.token?]

theorem Poised.announced_written {now : Instant} {copy : Credentials}
    (hpoised : Poised state (.announcing now))
    (horderly : Orderly (.annotated copy (.singleton pendingKey (some (Time.Rfc3339.stamp now)))
      (.ok ()) :: state.history)) :
    Poised (state.hear (.annotated copy (.singleton pendingKey (some (Time.Rfc3339.stamp now)))
      (.ok ()))) .announced where
  unwritten _ := hpoised.unwritten rfl
  settled := by simp [Stage.isSettled]
  assigned _ := (((Announcement.pending now).fits hpoised horderly.tail).note rfl).assigned horderly
  announced _ := by
    have hregular := horderly.tail.regular now (hpoised.announcing now rfl).1
    refine ⟨Credentials.createIncomplete_announced hregular (hpoised.older horderly.tail), ?_⟩
    have hname : (state.stored.patchAnnotations
        (.singleton pendingKey (some (Time.Rfc3339.stamp now)))).externalName? =
          state.stored.externalName? :=
      Credentials.externalName?_patchAnnotations_of_none (by simp [pendingKey, externalNameKey])
    exact hname.trans (hpoised.settled rfl).externalName?
  announcing := by simp
  timed := by simp [Stage.time?]
  latest := by simp [Stage.token?]

theorem Poised.created_heard {groups : List GroupReference} {request : TokenRequest}
    {token : Token} (hpoised : Poised state (.chosen groups)) :
    Poised (state.hear (.requested request (.ok token))) (.created token) where
  unwritten _ := hpoised.unwritten rfl
  settled := by simp [Stage.isSettled]
  assigned := by simp [Stage.isCreating]
  announced := by simp [Stage.isAnnounced]
  announcing := by simp
  timed := by simp [Stage.time?]
  latest other hsame := by
    cases hsame
    rfl

theorem Remembers.created_heard {groups : List GroupReference} {request : TokenRequest}
    {token : Token} (hremembers : Remembers state) (hpoised : Poised state (.chosen groups)) :
    Remembers (state.hear (.requested request (.ok token))) where
  stamps key houtcome text hpresent := (hremembers.stamps key houtcome text hpresent).note
  late changes hmember := absurd hmember (hpoised.unwritten rfl changes)
  -- The new token is not recorded yet; the announcement alone stands for it.
  claimed _ _ := .inr (hpoised.announced rfl).1

/-- Every turn leaves the last creation remembered and the next stage what it relies on. -/
theorem Turn.keeps_memory {resource : Credentials} (hturn : Turn resource stage act last)
    (hsame : state.present.resource = resource) (horderly : Orderly (act :: state.history))
    (hadmitted : stage.seenVacant resource = true → resource.Open) (hremembers : Remembers state)
    (hpoised : Poised state stage) : Remembers (state.hear act) ∧ Poised (state.hear act) last := by
  have hsooner := horderly.tail
  cases hturn with
  | idle stage idle => exact ⟨hremembers.plain idle.plain, hpoised.plain idle.plain⟩
  | spent hpermitted failed =>
      have hheard : state.hear act = state.note act := by simp only [State.hear, failed.written?]
      rw [hheard]
      refine ⟨hremembers.note failed.created? fun changes hunsettled => ?_, .spent⟩
      exact (failed.announcement hpermitted hunsettled).fits hpoised hsooner
  | authentication | authenticated | found | missing | revoked | chosen | unlisted | refused
  | delivered | kept =>
      refine ⟨hremembers.plain ⟨rfl, by rintro _ ⟨⟩, by rintro _ ⟨⟩⟩,
        (hpoised.plain ⟨rfl, by rintro _ ⟨⟩, by rintro _ ⟨⟩⟩).shift ?_ ?_ ?_ ?_ ?_ ?_ ?_⟩
      all_goals
        simp [Stage.isEarly, Stage.isSettled, Stage.isCreating, Stage.isAnnounced, Stage.token?,
          Stage.time?]
  | held hlive hobserved copy =>
      have hsettled := Stage.isSettled_of_isVacant hobserved
      refine ⟨hremembers.plain ⟨rfl, by rintro _ ⟨⟩, by rintro _ ⟨⟩⟩,
        (hpoised.plain ⟨rfl, by rintro _ ⟨⟩, by rintro _ ⟨⟩⟩).shift
          (fun _ => Stage.isEarly_of_isSettled hsettled) (fun _ => hsettled) ?_ ?_ ?_ ?_ rfl⟩
      all_goals
        simp [Stage.isCreating, Stage.isAnnounced, Stage.token?]
  | released hdeleting hcustody copy =>
      have hsettled := hcustody.isSettled
      refine ⟨hremembers.plain ⟨rfl, by rintro _ ⟨⟩, by rintro _ ⟨⟩⟩,
        (hpoised.plain ⟨rfl, by rintro _ ⟨⟩, by rintro _ ⟨⟩⟩).shift
          (fun _ => Stage.isEarly_of_isSettled hsettled) (fun _ => hsettled) ?_ ?_ ?_ ?_ rfl⟩
      all_goals
        simp [Stage.isCreating, Stage.isAnnounced, Stage.token?]
  | announcing hlive hprepared now =>
      -- The pass is open, so the stored resource names the last token if there is one.
      have hsettled := Stage.isSettled_of_isHeld hprepared
      have hassigned := hremembers.assigned (hpoised.settled hsettled) (hsame ▸ hlive)
        (hsame ▸ hadmitted (Stage.seenVacant_of_isHeld hprepared))
      exact ⟨hremembers.plain (Act.Idle.read now).plain,
        hpoised.announce hsettled hassigned hremembers horderly⟩
  | announced hlive now copy =>
      have hfits := (Announcement.pending now).fits hpoised hsooner
      exact ⟨(hremembers.note rfl (by rintro _ ⟨⟩)).patch (hfits.note rfl) horderly,
        hpoised.announced_written horderly⟩
  | created hadmitted hlive groups token =>
      exact ⟨hremembers.created_heard hpoised, hpoised.created_heard⟩
  | failing now =>
      have hplain : Plain (.read now) := (Act.Idle.read now).plain
      refine ⟨hremembers.plain hplain, .of_written rfl ?_ ?_ (by simp [Stage.token?])⟩
      · exact fun _ => (hpoised.plain hplain).assigned rfl
      · intro other hhere
        cases hhere
        exact List.mem_cons_self
  | recording token now =>
      have hplain : Plain (.read now) := (Act.Idle.read now).plain
      refine ⟨hremembers.plain hplain, .of_written rfl (by simp [Stage.isCreating]) ?_ ?_⟩
      · intro other hhere
        cases hhere
        exact List.mem_cons_self
      · exact (hpoised.plain hplain).latest
  | failed hlive now copy answer =>
      have hfits := (Announcement.failed now).fits hpoised hsooner
      cases answer with
      | ok done =>
          exact ⟨(hremembers.note rfl (by rintro _ ⟨⟩)).patch (hfits.note rfl) horderly,
            (hpoised.note rfl (by rintro ⟨⟩)).patch rfl (hfits.note rfl) horderly⟩
      | error fault =>
          refine ⟨hremembers.note rfl ?_, hpoised.note rfl (by rintro ⟨⟩)⟩
          intro _ hsame
          cases hsame
          exact hfits
  | recorded hlive token now copy =>
      have hfits := (Announcement.succeeded token now).fits hpoised hsooner
      refine ⟨(hremembers.note rfl (by rintro _ ⟨⟩)).patch (hfits.note rfl) horderly, ?_⟩
      refine .of_written rfl (by simp [Stage.isCreating]) (by simp [Stage.time?]) ?_
      intro other hhere
      cases hhere
      exact hpoised.latest token rfl
  | unrecorded hlive token now copy fault =>
      have hfits := (Announcement.succeeded token now).fits hpoised hsooner
      refine ⟨hremembers.note rfl ?_, hpoised.note rfl (by rintro ⟨⟩)⟩
      intro _ hsame
      cases hsame
      exact hfits

/-! A course -/

/-- Each creation among the acts follows the sight that the token created last is gone, where the
older acts came before all of them. -/
def GuardedActs (older : List Act) : List Act → Prop
  | [] => True
  | act :: before =>
      GuardedActs older before ∧ ∀ token, created? act = some token →
        ∀ last, latest? (before ++ older) = some last → last.id ∈ missing before

def Guarded : List Chapter → Prop
  | [] => True
  | chapter :: older =>
      Guarded older ∧ GuardedActs (older.flatMap (·.acts)) chapter.acts

theorem GuardedActs.split {older after before : List Act} {token last : Token}
    (hguarded : GuardedActs older (after ++ act :: before)) (hcreates : created? act = some token)
    (hlatest : latest? (before ++ older) = some last) : last.id ∈ missing before := by
  induction after with
  | nil => exact hguarded.2 token hcreates last hlatest
  | cons newest after ih => exact ih hguarded.1

theorem Guarded.split {newer older : List Chapter} {chapter : Chapter}
    (hguarded : Guarded (newer ++ chapter :: older)) :
    GuardedActs (older.flatMap (·.acts)) chapter.acts := by
  induction newer with
  | nil => exact hguarded.2
  | cons newest newer ih => exact ih hguarded.1

theorem State.chapters_hear (state : State) (act : Act) :
    (state.hear act).chapters =
      { state.present with acts := act :: state.present.acts } :: state.earlier := by
  rw [chapters, present_hear, earlier_hear]

theorem missing_of_creation {token last : Token}
    (hkept : (protocol state.present.resource).Kept .start state.present.acts)
    (hturn : Turn state.present.resource state.present.stage act stage)
    (hpoised : Poised state state.present.stage) (hcreates : created? act = some token)
    (hlatest : latest? state.history = some last) : last.id ∈ missing state.present.acts := by
  obtain ⟨-, groups, hhere⟩ := hturn.creation hcreates
  rw [hhere] at hpoised
  have hname := hpoised.assigned rfl last hlatest
  rw [(hpoised.announced rfl).2] at hname
  refine missing_of_seenVacant hkept ?_ hname
  rw [show (protocol state.present.resource).stageAfter .start state.present.acts = _ from hhere]
  rfl

structure Careful (state : State) : Prop where
  remembers : Remembers state
  poised : Poised state state.present.stage
  guarded : Guarded state.chapters

theorem Careful.initial {start : Credentials}
    (hfresh : ∀ key, OutcomeKey key → start.annotationOf? key = none) :
    Careful (.initial start) where
  remembers := by
    refine ⟨fun key houtcome text hpresent => ?_, by rintro changes ⟨⟩, by rintro token ⟨⟩⟩
    rw [show (State.initial start).stored.annotationOf? key = none from hfresh key houtcome]
      at hpresent
    cases hpresent
  poised := .start rfl (.refl start)
  guarded := ⟨trivial, trivial⟩

theorem Careful.change {next : State} {edits : Credentials → Credentials → Prop}
    (hbookkeeping : ∀ old new, edits old new → SameBookkeeping new old)
    (hcareful : Careful state) (horderly : Orderly state.history)
    (hchange : Change edits state next) : Careful next := by
  cases hchange with
  | @lands write hlate =>
      rcases write.annotations_or_same state.stored with ⟨changes, rfl⟩ | hsame
      · -- Late annotations exist only behind the writes, where a pass relies on little.
        have hfits := hcareful.remembers.late changes hlate
        refine ⟨hcareful.remembers.patch hfits horderly, ?_, hcareful.guarded⟩
        refine hcareful.poised.patch ?_ hfits horderly
        cases hearly : state.present.stage.isEarly with
        | false => rfl
        | true => exact absurd hlate (hcareful.poised.unwritten hearly changes)
      · exact ⟨hcareful.remembers.store_same hsame, hcareful.poised.store_same hsame,
          hcareful.guarded⟩
  | edited hedit =>
      have hsame := hbookkeeping _ _ hedit
      exact ⟨hcareful.remembers.store_same hsame, hcareful.poised.store_same hsame,
          hcareful.guarded⟩

theorem Careful.begin (hcareful : Careful state) : Careful state.begin where
  remembers := ⟨hcareful.remembers.stamps, by rintro changes ⟨⟩, hcareful.remembers.claimed⟩
  poised := .start rfl (.refl state.stored)
  guarded := ⟨hcareful.guarded, trivial⟩

theorem Careful.hear (hcareful : Careful state) (horderly : Orderly (act :: state.history))
    (hkept : (protocol state.present.resource).Kept .start state.present.acts)
    (hturn : Turn state.present.resource state.present.stage act (state.hear act).present.stage) :
    Careful (state.hear act) := by
  obtain ⟨hremembers, hpoised⟩ :=
    hturn.keeps_memory rfl horderly (open_of_seenVacant hkept) hcareful.remembers hcareful.poised
  refine ⟨hremembers, hpoised, ?_⟩
  rw [State.chapters_hear]
  refine ⟨hcareful.guarded.1, hcareful.guarded.2, fun token hcreates last hlatest => ?_⟩
  exact missing_of_creation hkept hturn hcareful.poised hcreates hlatest

theorem Careful.conclude (hcareful : Careful state) (outcome : Round.Outcome) :
    Careful (state.conclude outcome) where
  remembers := by
    obtain ⟨hstamps, hlate, hclaimed⟩ := hcareful.remembers
    refine ⟨hstamps, fun changes hmember => ?_, hclaimed⟩
    obtain ⟨hdated, hnames, hclaims⟩ := hlate changes hmember
    exact ⟨hdated, hnames, hclaims⟩
  poised := by
    obtain ⟨hunwritten, hsettled, hassigned, hannounced, hannouncing, htimed, hlatest⟩ :=
        hcareful.poised
    exact ⟨hunwritten, hsettled, hassigned, hannounced, hannouncing, htimed, hlatest⟩
  guarded := hcareful.guarded

theorem Course.careful {start : Credentials} {edits : Credentials → Credentials → Prop}
    {state : State} {task : Option Task} (hcourse : Course edits start state task)
    (hfresh : ∀ key ∈ [pendingKey, succeededKey, failedKey], start.annotationOf? key = none)
    (hbookkeeping : ∀ old new, edits old new → SameBookkeeping new old)
    (horderly : Orderly state.history) : Careful state := by
  refine hcourse.invariant (fun state => Orderly state.history → Careful state)
    ?_ ?_ ?_ ?_ ?_ horderly
  · refine fun _ => .initial fun key outcome => hfresh key ?_
    rcases outcome with rfl | rfl <;> simp
  · intro state next task hcourse ih hchange horderly
    have hsame : next.history = state.history := by cases hchange <;> rfl
    rw [hsame] at horderly
    exact (ih horderly).change hbookkeeping horderly hchange
  · exact fun ih horderly => (ih horderly).begin
  · intro state task act hcourse ih hturn horderly
    rw [State.history_hear] at horderly
    exact (ih horderly.tail).hear horderly hcourse.kept hturn
  · exact fun outcome ih horderly => (ih horderly).conclude outcome

/-- In a course over a resource without a creation on record, each creation is made by a round that
found the token created last on record and saw that it is gone. -/
theorem creation_at_most_once {start : Credentials} {edits : Credentials → Credentials → Prop}
    {state : State} {task : Option Task} (course : Course edits start state task)
    (fresh : ∀ key ∈ [pendingKey, succeededKey, failedKey], start.annotationOf? key = none)
    (bookkeeping : ∀ old new, edits old new → SameBookkeeping new old)
    (orderly : Orderly state.history) {newer older : List Chapter} {chapter : Chapter}
    {after before : List Act} {act : Act} {token last : Token}
    (round : state.chapters = newer ++ chapter :: older)
    (creation : chapter.acts = after ++ act :: before) (creates : created? act = some token)
    (earlier : latest? (before ++ older.flatMap (·.acts)) = some last) :
    chapter.resource.externalName? = some last.id ∧ last.id ∈ missing before := by
  have hguarded := (course.careful fresh bookkeeping orderly).guarded
  rw [round] at hguarded
  have hacts := hguarded.split
  rw [creation] at hacts
  have hgone : last.id ∈ missing before := hacts.split creates earlier
  have hmember : chapter ∈ state.chapters := by
    rw [round]
    exact List.mem_append_right newer List.mem_cons_self
  refine ⟨externalName?_of_missing (course.lawful chapter hmember).kept ?_, hgone⟩
  rw [creation]
  exact mem_missing_append hgone

/-- A token is created, is revoked behind the back of the controller, and is created anew. -/
def recreated : State :=
  ((State.initial applicant).perform 1717200000 (obliging none (tokenNamed "first"))
    habits).perform 1717200100 (obliging none (tokenNamed "second")) habits

theorem creation_at_most_once_recreated :
    ∃ after act before, recreated.present.acts = after ++ act :: before ∧
      created? act = some (tokenNamed "second") ∧
        recreated.present.resource.externalName? = some "first" ∧ "first" ∈ missing before := by
  have hcourse : Course Eq applicant recreated none :=
    (Course.initial.performs 1717200000 (obliging none (tokenNamed "first")) habits).performs
      1717200100 (obliging none (tokenNamed "second")) habits
  have horderly : Orderly recreated.history := by decide +kernel
  have hcreations : created recreated.present.acts = [tokenNamed "second"] := by decide +kernel
  have first : created (recreated.earlier.flatMap (·.acts)) = [tokenNamed "first"] := by
    decide +kernel
  obtain ⟨after, act, before, hacts, -, hcreates, hothers⟩ :=
      List.filterMap_eq_cons_iff.mp hcreations
  have hlatest : latest? (before ++ recreated.earlier.flatMap (·.acts)) =
      some (tokenNamed "first") := by
    rw [latest?, created, List.filterMap_append, hothers]
    exact congrArg List.head? first
  have hfresh : ∀ key ∈ [pendingKey, succeededKey, failedKey], applicant.annotationOf? key = none :=
    fun _ _ => rfl
  have hround : recreated.chapters = [] ++ recreated.present :: recreated.earlier := rfl
  exact ⟨after, act, before, hacts, hcreates, creation_at_most_once hcourse hfresh
    (fun old new hsame => hsame ▸ .refl old) horderly hround hacts hcreates hlatest⟩

end BucketKeys.Issuance
