import BucketKeys.Proofs.Script.Ledger

/-!
Scripts with some of their questions answered on the spot, so that nobody else hears them. What is
left is a script of its own, and each of its runs is what is left of a run in which those questions
were put and answered.
-/

namespace BucketKeys

structure Carried (J : Interface) (A : Type) where
  call : J.Call
  back : J.Answer call → A
  forth : A → J.Answer call
  back_forth : ∀ answer, back (forth answer) = answer
  forth_back : ∀ answer, forth (back answer) = answer

namespace Carried

def same {J : Interface} (call : J.Call) : Carried J (J.Answer call) :=
  ⟨call, id, id, fun _ => rfl, fun _ => rfl⟩

end Carried

/-- Which questions are answered on the spot, and which are put as other ones. -/
def Muffler (I J : Interface) : Type :=
  (call : I.Call) → I.Answer call ⊕ Carried J (I.Answer call)

namespace Muffler

variable {I J : Interface} (muffler : Muffler I J)

def heard? : Moment I → Option (Moment J)
  | .asked call answer =>
      match muffler call with
      | .inl _ => none
      | .inr carried => some (.asked carried.call (carried.forth answer))
  | .lost call =>
      match muffler call with
      | .inl _ => none
      | .inr carried => some (.lost carried.call)
  | .read now => some (.read now)
  | .counted event => some (.counted event)

/-- A question that nobody else hears is not lost, and has its answer. -/
def Heeds (moment : Moment I) : Prop :=
  ∀ call answer, moment.call? = some call → muffler call = .inl answer → moment = .asked call answer

variable {muffler} {moment : Moment I} {call : I.Call} {answer given : I.Answer call}
  {carried : Carried J (I.Answer call)}

theorem heard?_spot (hspot : muffler call = .inl given) :
    muffler.heard? (.asked call answer) = none := by
  simp only [heard?, hspot]

theorem heard?_carried (hcarries : muffler call = .inr carried) :
    muffler.heard? (.asked call answer) = some (.asked carried.call (carried.forth answer)) := by
  simp only [heard?, hcarries]

theorem heeds_spot (hspot : muffler call = .inl answer) : muffler.Heeds (.asked call answer) := by
  intro other known hsame hquiet
  cases hsame
  cases hspot.symm.trans hquiet
  rfl

theorem heeds_carried (hcarries : muffler call = .inr carried) :
    muffler.Heeds (.asked call answer) := by
  intro other known hsame hquiet
  cases hsame
  cases hcarries.symm.trans hquiet

theorem heeds_read (now : Time.Instant) : muffler.Heeds (.read now) := by
  rintro _ _ ⟨⟩

theorem heeds_counted (event : Event) : muffler.Heeds (.counted event) := by
  rintro _ _ ⟨⟩

end Muffler

namespace Script

variable {I J : Interface} {muffler : Muffler I J}

def muffled (muffler : Muffler I J) : Script I σ α → Script J σ α
  | done held value => .done held value
  | ask held call resume =>
    match muffler call with
    | .inl answer => (resume answer).muffled muffler
    | .inr carried =>
      .ask held carried.call fun answer => (resume (carried.back answer)).muffled muffler
  | clock resume => .clock fun now => (resume now).muffled muffler
  | count event next => .count event (next.muffled muffler)

section

variable {held : σ} {call : I.Call} {resume : I.Answer call → Script I σ α}

theorem muffled_ask_spot {answer : I.Answer call} (hspot : muffler call = .inl answer) :
    (ask held call resume).muffled muffler = (resume answer).muffled muffler := by
  rw [muffled, hspot]

theorem muffled_ask_carried {carried : Carried J (I.Answer call)}
    (hcarries : muffler call = .inr carried) :
    (ask held call resume).muffled muffler =
      .ask held carried.call fun answer => (resume (carried.back answer)).muffled muffler := by
  rw [muffled, hcarries]

end

theorem muffled_bind (script : Script I σ α) (next : σ → α → Script I σ β) :
    (script.bind next).muffled muffler =
      (script.muffled muffler).bind fun held value => (next held value).muffled muffler := by
  induction script with
  | done held value => rfl
  | ask held call resume ih =>
      simp only [bind, muffled]
      cases muffler call with
      | inl answer => exact ih answer
      | inr carried => exact congrArg (ask held _) (funext fun answer => ih _)
  | clock resume ih => exact congrArg clock (funext ih)
  | count event next ih => exact congrArg (count event) ih

/-- What others hear of a script they would have heard of a run of the whole of it. -/
theorem yields_muffled {script present : Script I σ α} {own : List (Moment I)}
    (hreached : script.Reaches own (some present))
    (hheeded : ∀ moment ∈ own, muffler.Heeds moment) :
    (present.muffled muffler).Yields (.whole fun _ => True)
      (fun moments held value => ∃ whole, script.Reaches whole (some (.done held value)) ∧
        (∀ moment ∈ whole, muffler.Heeds moment) ∧ whole.filterMap muffler.heard? = moments)
      (own.filterMap muffler.heard?) := by
  induction present generalizing own with
  | done held value => exact ⟨own, hreached, hheeded, rfl⟩
  | ask held call resume ih =>
      cases hkind : muffler call with
      | inl answer =>
          have hcontinued := ih answer (hreached.step (.asked answer))
            (List.forall_mem_cons.mpr ⟨Muffler.heeds_spot hkind, hheeded⟩)
          rw [List.filterMap_cons_none (Muffler.heard?_spot hkind)] at hcontinued
          rwa [muffled_ask_spot hkind]
      | inr carried =>
          rw [muffled_ask_carried hkind]
          intro answer _
          have hcontinued := ih (carried.back answer) (hreached.step (.asked _))
            (List.forall_mem_cons.mpr ⟨Muffler.heeds_carried hkind, hheeded⟩)
          rwa [List.filterMap_cons_some (Muffler.heard?_carried hkind), carried.forth_back]
            at hcontinued
  | clock resume ih =>
      exact fun now _ => ih now (hreached.step (.read now))
        (List.forall_mem_cons.mpr ⟨Muffler.heeds_read now, hheeded⟩)
  | count event next ih =>
      exact ih (hreached.step .counted)
        (List.forall_mem_cons.mpr ⟨Muffler.heeds_counted event, hheeded⟩)

theorem reaches_of_muffled {script : Script I σ α} {moments : List (Moment J)} {held : σ}
    {value : α} (hreached : (script.muffled muffler).Reaches moments (some (.done held value))) :
    ∃ whole, script.Reaches whole (some (.done held value)) ∧
      (∀ moment ∈ whole, muffler.Heeds moment) ∧ whole.filterMap muffler.heard? = moments := by
  have hyields : (script.muffled muffler).Yields _ _ [] :=
    yields_muffled .here (List.forall_mem_nil _)
  simpa using hyields.done hreached fun _ _ => trivial

theorem Reaches.muffled {script present : Script I σ α} {whole : List (Moment I)}
    (hreached : script.Reaches whole (some present))
    (hheeded : ∀ moment ∈ whole, muffler.Heeds moment) :
    (script.muffled muffler).Reaches (whole.filterMap muffler.heard?)
      (some (present.muffled muffler)) := by
  generalize hsame : some present = rest at hreached
  induction hreached generalizing present with
  | here =>
      cases hsame
      exact .here
  | @step before moment earlier rest hreached hadvance ih =>
      obtain ⟨hlast, hheeded⟩ := List.forall_mem_cons.mp hheeded
      have honwards := ih hheeded rfl
      cases hsame
      cases hadvance with
      | @asked held call resume answer =>
          cases hkind : muffler call with
          | inl given =>
              cases hlast call given rfl hkind
              rw [List.filterMap_cons_none (Muffler.heard?_spot hkind)]
              rwa [muffled_ask_spot hkind] at honwards
          | inr carried =>
              rw [List.filterMap_cons_some (Muffler.heard?_carried hkind)]
              rw [muffled_ask_carried hkind] at honwards
              have hadvanced := honwards.step (.asked (carried.forth answer))
              rwa [carried.back_forth] at hadvanced
      | read now => exact honwards.step (.read now)
      | counted => exact honwards.step .counted

end Script

namespace Work

variable {I J : Interface} {muffler : Muffler I J}

def muffled (muffler : Muffler I J) (work : Work I σ α) : Work J σ α := fun held =>
  (work held).muffled muffler

@[simp] theorem muffled_bind (work : Work I σ α) (next : α → Work I σ β) :
    (work >>= next).muffled muffler =
      work.muffled muffler >>= fun value => (next value).muffled muffler := by
  funext held
  refine (Script.muffled_bind _ _).trans (congrArg (Script.bind _) ?_)
  funext held result
  cases result <;> rfl

theorem muffled_then {work : Work I σ α} {next : α → Work I σ β} {heard : Work J σ α}
    {later : α → Work J σ β} (hfirst : work.muffled muffler = heard)
    (hfollows : ∀ value, (next value).muffled muffler = later value) :
    (work >>= next).muffled muffler = heard >>= later := by
  rw [muffled_bind, hfirst, funext hfollows]

@[simp] theorem muffled_pure (value : α) :
    (pure value : Work I σ α).muffled muffler = pure value := rfl

@[simp] theorem muffled_fail (fault : Fault) :
    (fail fault : Work I σ α).muffled muffler = fail fault := rfl

@[simp] theorem muffled_held : (Work.held : Work I σ σ).muffled muffler = Work.held := rfl

@[simp] theorem muffled_modify (f : σ → σ) :
    (modify f : Work I σ Unit).muffled muffler = modify f := rfl

@[simp] theorem muffled_now :
    (now : Work I σ Time.Instant).muffled muffler = now := rfl

@[simp] theorem muffled_count (event : Event) :
    (count event : Work I σ Unit).muffled muffler = count event := rfl

@[simp] theorem muffled_ofExcept (result : Except Fault α) :
    (ofExcept result : Work I σ α).muffled muffler = ofExcept result := by
  cases result <;> rfl

@[simp] theorem muffled_attempt (work : Work I σ α) :
    work.attempt.muffled muffler = (work.muffled muffler).attempt := by
  funext held
  exact Script.muffled_bind _ _

end Work

end BucketKeys
