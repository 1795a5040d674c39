import BucketKeys.Pass.Basic
import BucketKeys.Proofs.Script.Laws
import BucketKeys.Proofs.Script.Ledger
import Mathlib.Data.List.Range
import Mathlib.Data.UInt

/-!
How often the outcome of a creation is written, and how long the pauses between the writes are.
-/

namespace BucketKeys.Pass

variable {R : Interface} {resource : Credentials} {changes : Dictionary (Option String)}

theorem toNat_next {attempt most : UInt32} (hmore : attempt < most) :
    (attempt + 1).toNat = attempt.toNat + 1 := by
  have hbound := most.toNat_lt_size
  have hbelow : attempt.toNat < most.toNat := UInt32.lt_iff_toNat_lt.mp hmore
  have hstep : attempt.toNat + 1 < UInt32.size := by omega
  rw [UInt32.toNat_add]
  exact Nat.mod_eq_of_lt hstep

theorem toNat_hundredfold (attempt : UInt32) :
    (100 * attempt.toUInt64).toNat = 100 * attempt.toNat := by
  have hbound := attempt.toNat_lt_size
  rw [UInt64.toNat_mul, UInt32.toNat_toUInt64]
  apply Nat.mod_eq_of_lt
  change 100 * attempt.toNat < 18446744073709551616
  change attempt.toNat < 4294967296 at hbound
  omega

/-- The attempts with a counter of 32 bits and pauses of 64 bits, neither of which is kept from
wrapping around. -/
def recordInWords (changes : Dictionary (Option String)) (most attempt : UInt32) : Step R Unit := do
  match ← (updateAnnotations changes).attempt with
  | .ok () => return ()
  | .error fault =>
    if more : attempt < most then
      pause (.ofMillis (100 * attempt.toUInt64).toNat)
      recordInWords changes most (attempt + 1)
    else Work.fail fault
termination_by most.toNat - attempt.toNat
decreasing_by
  have below : attempt.toNat < most.toNat := UInt32.lt_iff_toNat_lt.mp more
  rw [toNat_next more]
  omega

theorem recordInWords_eq {most : UInt32} (more : Nat) (attempt : UInt32)
    (hleft : attempt.toNat + more = most.toNat) :
    recordInWords changes most attempt = (recordFrom changes attempt.toNat more : Step R Unit) := by
  induction more generalizing attempt with
  | zero =>
      have hlast : ¬ attempt < most := by
        rw [UInt32.lt_iff_toNat_lt]
        omega
      rw [recordInWords, recordFrom]
      refine Eq.trans (congrArg _ (funext fun result => ?_)) (Work.attempt_ofExcept _)
      cases result with
      | ok done => rfl
      | error fault => exact dif_neg hlast
  | succ more ih =>
      have hanother : attempt < most := by
        rw [UInt32.lt_iff_toNat_lt]
        omega
      have hnext := toNat_next hanother
      have hfollows := ih (attempt + 1) (by omega)
      rw [recordInWords, recordFrom]
      refine congrArg _ (funext fun result => ?_)
      cases result with
      | ok done => rfl
      | error fault =>
          refine (dif_pos hanother).trans ?_
          rw [toNat_hundredfold, hfollows, hnext]

def written (resource : Credentials) (changes : Dictionary (Option String))
    (answer : Except Fault Unit) : Moment (interface R) :=
  .asked (Call.updateAnnotations resource changes) answer

def paused (number : Nat) : Moment (interface R) :=
  .asked (Call.pause (.ofMillis (100 * number))) ()

/-- So many failed writes, each with the pause after it; the last of them first. -/
def setbacks (resource : Credentials) (changes : Dictionary (Option String))
    (outcome : Nat → Except Fault Unit) : (failed : Nat) → List (Moment (interface R))
  | 0 => []
  | failed + 1 =>
      paused (failed + 1) :: written resource changes (outcome (failed + 1)) ::
        setbacks resource changes outcome failed

/-- The number of the first write that succeeds, or else of the last that may be made. -/
def lastWrite (outcome : Nat → Except Fault Unit) (first most : Nat) : Nat :=
  ((List.range' first (most + 1 - first)).find? fun number => (outcome number).isOk).getD most

def diary (resource : Credentials) (changes : Dictionary (Option String))
    (outcome : Nat → Except Fault Unit) (number : Nat) : List (Moment (interface R)) :=
  written resource changes (outcome number) :: setbacks resource changes outcome (number - 1)

variable {outcome : Nat → Except Fault Unit} {first most : Nat}

theorem lastWrite_of_ok (hwithin : first ≤ most) (hsuccess : outcome first = .ok ()) :
    lastWrite outcome first most = first := by
  have hrange : most + 1 - first = (most - first) + 1 := by omega
  rw [lastWrite, hrange, List.range'_succ, List.find?_cons, hsuccess]
  rfl

theorem lastWrite_of_error {fault : Fault} (hwithin : first ≤ most)
    (hfailure : outcome first = .error fault) :
    lastWrite outcome first most = lastWrite outcome (first + 1) most := by
  have hrange : most + 1 - first = (most + 1 - (first + 1)) + 1 := by omega
  rw [lastWrite, hrange, List.range'_succ, List.find?_cons, hfailure]
  rfl

theorem lastWrite_of_lt (hbeyond : most < first) : lastWrite outcome first most = most := by
  have hnone : most + 1 - first = 0 := by omega
  rw [lastWrite, hnone]
  rfl

theorem lastWrite_self : lastWrite outcome most most = most := by
  cases hanswer : outcome most with
  | ok done => exact lastWrite_of_ok le_rfl hanswer
  | error fault =>
      rw [lastWrite_of_error le_rfl hanswer]
      exact lastWrite_of_lt (Nat.lt_succ_self most)

/-- All writes before the last one failed, and it succeeds unless no other may follow. -/
theorem lastWrite_spec (gap : Nat) (hwithin : first + gap = most) :
    (first ≤ lastWrite outcome first most ∧ lastWrite outcome first most ≤ most) ∧
      (∀ number, first ≤ number → number < lastWrite outcome first most →
        outcome number ≠ .ok ()) ∧
      (outcome (lastWrite outcome first most) = .ok () ∨ lastWrite outcome first most = most) := by
  induction gap generalizing first with
  | zero =>
      obtain rfl : first = most := hwithin
      rw [lastWrite_self]
      refine ⟨⟨le_rfl, le_rfl⟩, ?_, .inr rfl⟩
      intro number hbegun hbefore
      omega
  | succ gap ih =>
      cases hanswer : outcome first with
      | ok done =>
          rw [lastWrite_of_ok (by omega) hanswer]
          refine ⟨⟨le_rfl, by omega⟩, ?_, .inl hanswer⟩
          intro number hbegun hbefore
          omega
      | error fault =>
          obtain ⟨hbounds, hfailures, hends⟩ := ih (show first + 1 + gap = most by omega)
          rw [lastWrite_of_error (by omega) hanswer]
          refine ⟨⟨by omega, hbounds.2⟩, ?_, hends⟩
          intro number hbegun hbefore
          rcases Nat.eq_or_lt_of_le hbegun with hsame | hlater
          · rw [← hsame, hanswer]
            exact nofun
          · exact hfailures number hlater hbefore

theorem updateAnnotations_eq :
    (updateAnnotations changes : Step R Unit) resource =
      .ask resource (Call.updateAnnotations resource changes)
          (fun answer => .done resource answer) := by
  refine congrArg (Script.ask resource _) (funext fun answer => ?_)
  cases (answer : Except Fault Unit) with
  | ok done => rfl
  | error fault => rfl

theorem recordFrom_succ (number more : Nat) :
    (recordFrom changes number (more + 1) : Step R Unit) resource =
      .ask resource (Call.updateAnnotations resource changes) fun answer : Except Fault Unit =>
        match answer with
        | .ok () => .done resource (.ok ())
        | .error _ =>
          .ask resource (Call.pause (.ofMillis (100 * number))) fun _ =>
            recordFrom changes (number + 1) more resource := by
  refine congrArg (Script.ask resource _) (funext fun answer => ?_)
  cases (answer : Except Fault Unit) with
  | ok done => rfl
  | error fault => rfl

theorem reaches_asked {I : Interface} {whole : Script I σ α} {before : List (Moment I)} {held : σ}
    {call : I.Call} {resume : I.Answer call → Script I σ α}
    (hreached : whole.Reaches before (some (.ask held call resume))) (answer : I.Answer call) :
    whole.Reaches (.asked call answer :: before) (some (resume answer)) :=
  hreached.step (.asked answer)

theorem reaches_diary {whole : Script (interface R) Credentials (Except Fault Unit)}
    (more failed : Nat) (hwithin : failed + 1 + more = most)
    (hreached : whole.Reaches (setbacks resource changes outcome failed)
      (some ((recordFrom changes (failed + 1) more : Step R Unit) resource))) :
    whole.Reaches (diary resource changes outcome (lastWrite outcome (failed + 1) most))
      (some (.done resource (outcome (lastWrite outcome (failed + 1) most)))) := by
  induction more generalizing failed with
  | zero =>
      obtain rfl : failed + 1 = most := hwithin
      rw [recordFrom, updateAnnotations_eq] at hreached
      rw [lastWrite_self]
      exact reaches_asked hreached (outcome (failed + 1))
  | succ more ih =>
      rw [recordFrom_succ] at hreached
      have hanswered := reaches_asked hreached (outcome (failed + 1))
      cases answer : outcome (failed + 1) with
      | ok done =>
          rw [lastWrite_of_ok (by omega) answer, diary, answer]
          rw [answer] at hanswered
          exact hanswered
      | error fault =>
          rw [lastWrite_of_error (by omega) answer]
          apply ih (failed + 1) (by omega)
          rw [answer] at hanswered
          rw [setbacks, answer]
          exact reaches_asked hanswered ()

theorem setbacks_congr {other : Nat → Except Fault Unit} {failed : Nat}
    (hsame : ∀ number, number ≤ failed → outcome number = other number) :
    (setbacks resource changes outcome failed : List (Moment (interface R))) =
      setbacks resource changes other failed := by
  induction failed with
  | zero => rfl
  | succ failed ih =>
      rw [setbacks, setbacks, hsame (failed + 1) le_rfl, ih fun number hearlier =>
        hsame number (Nat.le_succ_of_le hearlier)]

theorem exists_told (outcome : Nat → Except Fault Unit) (failed : Nat)
    (answer : Except Fault Unit) :
    ∃ told : Nat → Except Fault Unit, told (failed + 1) = answer ∧
      ∀ number, number ≤ failed → outcome number = told number := by
  refine ⟨Function.update outcome (failed + 1) answer, Function.update_self .., ?_⟩
  intro number hbefore
  exact (Function.update_of_ne (by omega) ..).symm

theorem recordFrom_yields (more failed : Nat) (hwithin : failed + 1 + more = most)
    (outcome : Nat → Except Fault Unit) :
    ((recordFrom changes (failed + 1) more : Step R Unit) resource).Yields (.whole fun _ => True)
      (fun moments held result => held = resource ∧ ∃ told : Nat → Except Fault Unit,
        (∀ number, number ≤ failed → outcome number = told number) ∧
          moments = diary resource changes told (lastWrite told (failed + 1) most) ∧
            result = told (lastWrite told (failed + 1) most))
      (setbacks resource changes outcome failed) := by
  induction more generalizing failed outcome with
  | zero =>
      obtain rfl : failed + 1 = most := hwithin
      rw [recordFrom, updateAnnotations_eq]
      intro (answer : Except Fault Unit) _
      obtain ⟨told, hpresent, hearlier⟩ := exists_told outcome failed answer
      refine ⟨rfl, told, hearlier, ?_, ?_⟩
      · rw [lastWrite_self, diary, hpresent]
        exact congrArg _ (setbacks_congr hearlier)
      · rw [lastWrite_self, hpresent]
  | succ more ih =>
      rw [recordFrom_succ]
      intro (answer : Except Fault Unit) _
      obtain ⟨told, hpresent, hearlier⟩ := exists_told outcome failed answer
      have hbefore : (setbacks resource changes outcome failed : List (Moment (interface R))) =
          setbacks resource changes told failed := setbacks_congr hearlier
      cases answer with
      | ok done =>
          refine ⟨rfl, told, hearlier, ?_, ?_⟩
          · rw [lastWrite_of_ok (by omega) hpresent, diary, hpresent, hbefore]
            rfl
          · rw [lastWrite_of_ok (by omega) hpresent, hpresent]
      | error fault =>
          intro pausing _
          have hfollows := ih (failed + 1) (by omega) told
          rw [setbacks, hpresent, ← hbefore] at hfollows
          refine hfollows.imp fun moments held result hended => ?_
          obtain ⟨hsame, others, hagree, hended⟩ := hended
          have hagain : lastWrite others (failed + 1) most =
              lastWrite others (failed + 1 + 1) most :=
            lastWrite_of_error (by omega) ((hagree (failed + 1) le_rfl).symm.trans hpresent)
          refine ⟨hsame, others, fun number hsooner => ?_, ?_⟩
          · exact (hearlier number hsooner).trans (hagree number (Nat.le_succ_of_le hsooner))
          · rw [hagain]
            exact hended

/-- The attempts come to an end however the writes are answered: with the first write that succeeds,
or with the last that may be made. The pause behind each failed write but the last grows by a tenth
of a second, all writes are of the same changes, and no word wraps around. -/
theorem record_bounded (attempts : UInt32) (changes : Dictionary (Option String))
    (resource : Credentials) :
    recordInWords changes (max attempts 1) 1 = (record attempts.toNat changes : Step R Unit) ∧
      (∀ moments held result,
        ((record attempts.toNat changes : Step R Unit) resource).Reaches moments
            (some (.done held result)) ↔
          held = resource ∧ ∃ outcome : Nat → Except Fault Unit,
            let last := lastWrite outcome 1 (max attempts.toNat 1)
            moments = written resource changes (outcome last) ::
                setbacks resource changes outcome (last - 1) ∧
              result = outcome last) ∧
      ∀ outcome : Nat → Except Fault Unit,
        let last := lastWrite outcome 1 (max attempts.toNat 1)
        (1 ≤ last ∧ last ≤ max attempts.toNat 1) ∧
          (∀ number, 1 ≤ number → number < last → outcome number ≠ .ok ()) ∧
          (outcome last = .ok () ↔ ∃ number, 1 ≤ number ∧ number ≤ max attempts.toNat 1 ∧
            outcome number = .ok ()) ∧
          (outcome last ≠ .ok () → last = max attempts.toNat 1) ∧
          last < UInt32.size ∧ 100 * last < UInt64.size := by
  have most : (max attempts 1).toNat = max attempts.toNat 1 := UInt32.toNat_max attempts 1
  have hwithin : 0 + 1 + (attempts.toNat - 1) = max attempts.toNat 1 := by omega
  refine ⟨?_, ?_, ?_⟩
  · apply recordInWords_eq
    change 1 + (attempts.toNat - 1) = (max attempts 1).toNat
    rw [most]
    omega
  · intro moments held result
    constructor
    · intro hreached
      have hended :=
          (recordFrom_yields (attempts.toNat - 1) 0 hwithin fun _ => .ok ()).done hreached
        fun _ _ => trivial
      rw [Ledger.total_whole, setbacks, List.append_nil] at hended
      obtain ⟨hsame, outcome, -, hended⟩ := hended
      exact ⟨hsame, outcome, hended⟩
    · intro hended
      obtain ⟨rfl, outcome, rfl, rfl⟩ := hended
      exact reaches_diary (attempts.toNat - 1) 0 hwithin .here
  · intro outcome last
    obtain ⟨hbounds, hfailures, hends⟩ :=
      lastWrite_spec (attempts.toNat - 1) hwithin
    have size := attempts.toNat_lt_size
    have hword : last ≤ max attempts.toNat 1 := hbounds.2
    refine ⟨hbounds, hfailures, ⟨fun hsuccess => ⟨last, hbounds.1, hbounds.2, hsuccess⟩, ?_⟩,
      hends.resolve_left, ?_, ?_⟩
    · intro ⟨number, hbegun, hallowed, hsuccess⟩
      by_contra hrefused
      have hexhausted : last = max attempts.toNat 1 := hends.resolve_left hrefused
      rw [← hexhausted] at hallowed
      rcases Nat.eq_or_lt_of_le hallowed with hsame | hbefore
      · exact hrefused (hsame ▸ hsuccess)
      · exact hfailures number hbegun hbefore hsuccess
    · change attempts.toNat < 4294967296 at size
      change last < 4294967296
      omega
    · change attempts.toNat < 4294967296 at size
      change 100 * last < 18446744073709551616
      omega

end BucketKeys.Pass
