import BucketKeys.Proofs.Script.Moments

/-!
Books kept of a script. The keeper of a ledger forbids nothing, but hears every moment, what is
counted included, and may rely on some of the answers. A script that comes to its end leaves behind
what its ledger says of it; one that may be given up has to keep its books in order all along.
-/

namespace BucketKeys

structure Ledger (I : Interface) (G : Type) where
  relies : Moment I → Prop
  enter : Moment I → G → G

namespace Ledger

variable {I J : Interface} {G : Type}

/-- The books after some moments, the last of them first. -/
def total (ledger : Ledger I G) (start : G) (moments : List (Moment I)) : G :=
  moments.foldr ledger.enter start

def whole (relies : Moment I → Prop) : Ledger I (List (Moment I)) where
  relies := relies
  enter := List.cons

@[simp] theorem total_whole (relies : Moment I → Prop) (start moments : List (Moment I)) :
    (whole relies).total start moments = moments ++ start := by
  induction moments with
  | nil => rfl
  | cons moment before ih => exact congrArg (moment :: ·) ih

def pull (ledger : Ledger J G) (carry : I.Call → J.Call)
    (forth : (call : I.Call) → I.Answer call → J.Answer (carry call)) : Ledger I G :=
  let carried : Moment I → Moment J
    | .asked call answer => .asked (carry call) (forth call answer)
    | .lost call => .lost (carry call)
    | .read now => .read now
    | .counted event => .counted event
  { relies := fun moment => ledger.relies (carried moment)
    enter := fun moment => ledger.enter (carried moment) }

end Ledger

namespace Script

variable {I J : Interface} {G : Type} {ledger : Ledger I G}

/-- However a script is answered in the way that is relied on, it ends as told by the books. -/
def Yields (ledger : Ledger I G) (ends : G → σ → α → Prop) : Script I σ α → G → Prop
  | done held value, books => ends books held value
  | ask _ call resume, books =>
      ∀ answer, ledger.relies (.asked call answer) →
        (resume answer).Yields ledger ends (ledger.enter (.asked call answer) books)
  | clock resume, books =>
      ∀ now, ledger.relies (.read now) →
        (resume now).Yields ledger ends (ledger.enter (.read now) books)
  | count event next, books => next.Yields ledger ends (ledger.enter (.counted event) books)

theorem Yields.imp {first second : G → σ → α → Prop} {script : Script I σ α} {books : G}
    (hyields : script.Yields ledger first books)
    (himplies : ∀ books held value, first books held value → second books held value) :
    script.Yields ledger second books := by
  induction script generalizing books with
  | done held value => exact himplies books held value hyields
  | ask held call resume ih =>
      exact fun answer hrelied => ih answer (hyields answer hrelied)
  | clock resume ih => exact fun now hrelied => ih now (hyields now hrelied)
  | count event next ih => exact ih hyields

theorem yields_bind {ends : G → τ → β → Prop} (script : Script I τ α)
    (next : τ → α → Script I τ β) (books : G) :
    (script.bind next).Yields ledger ends books ↔
      script.Yields ledger
        (fun books held value => (next held value).Yields ledger ends books) books := by
  induction script generalizing books with
  | done held value => rfl
  | ask held call resume ih => simp only [bind, Yields, ih]
  | clock resume ih => simp only [bind, Yields, ih]
  | count event rest ih => exact ih _

theorem yields_through {ledger : Ledger J G} {carry : I.Call → J.Call}
    {back : (call : I.Call) → J.Answer (carry call) → I.Answer call}
    {forth : (call : I.Call) → I.Answer call → J.Answer (carry call)}
    (hinverse : ∀ call answer, forth call (back call answer) = answer)
    {ends : G → σ → α → Prop} {script : Script I σ α} {books : G}
    (hyields : script.Yields (ledger.pull carry forth) ends books) :
    (script.through carry back).Yields ledger ends books := by
  induction script generalizing books with
  | done held value => exact hyields
  | ask held call resume ih =>
      intro answer hrelied
      have hcarried := ih (back call answer) (hyields (back call answer) (by
        simpa only [Ledger.pull, hinverse] using hrelied))
      simpa only [Ledger.pull, hinverse] using hcarried
  | clock resume ih => exact fun now hrelied => ih now (hyields now hrelied)
  | count event next ih => exact ih hyields

theorem Yields.advances {ends : G → σ → α → Prop} {script next : Script I σ α} {books : G}
    (hyields : script.Yields ledger ends books) {moment : Moment I} (hrelied : ledger.relies moment)
    (hadvance : script.Advances moment (some next)) :
    next.Yields ledger ends (ledger.enter moment books) := by
  cases hadvance with
  | asked answer => exact hyields answer hrelied
  | read now => exact hyields now hrelied
  | counted => exact hyields

theorem Yields.reaches {ends : G → σ → α → Prop} {script : Script I σ α} {books : G}
    (hyields : script.Yields ledger ends books) {moments : List (Moment I)}
    {rest : Option (Script I σ α)} (hreached : script.Reaches moments rest)
    (hrelied : ∀ moment ∈ moments, ledger.relies moment) :
    ∀ next, rest = some next → next.Yields ledger ends (ledger.total books moments) := by
  induction hreached with
  | here =>
      intro next hsame
      cases hsame
      exact hyields
  | step hreached hadvance ih =>
      intro next hsame
      cases hsame
      obtain ⟨hlast, hearlier⟩ := List.forall_mem_cons.mp hrelied
      exact (ih hearlier _ rfl).advances hlast hadvance

/-- What the books say of a script is so at its end. -/
theorem Yields.done {ends : G → σ → α → Prop} {script : Script I σ α} {books : G}
    (hyields : script.Yields ledger ends books) {moments : List (Moment I)} {held : σ} {value : α}
    (hreached : script.Reaches moments (some (.done held value)))
    (hrelied : ∀ moment ∈ moments, ledger.relies moment) :
    ends (ledger.total books moments) held value :=
  hyields.reaches hreached hrelied _ rfl

theorem yields_rest {script present : Script I σ α} {own : List (Moment I)}
    (hreached : script.Reaches own (some present)) (before : List (Moment I)) :
    present.Yields (.whole fun _ => True)
      (fun moments held value => ∃ run, moments = run ++ before ∧
        script.Reaches run (some (.done held value))) (own ++ before) := by
  induction present generalizing own with
  | done held value => exact ⟨own, rfl, hreached⟩
  | ask held call resume ih =>
      exact fun answer _ => ih answer (hreached.step (.asked answer))
  | clock resume ih => exact fun now _ => ih now (hreached.step (.read now))
  | count event next ih => exact ih (hreached.step .counted)

/-- However a script is answered in the way that is relied on, what is lost of it stops it in
order, and it ends as told by the books. -/
def Audits (ledger : Ledger I G) (stops : G → Prop) (ends : G → σ → α → Prop) :
    Script I σ α → G → Prop
  | done held value, books => ends books held value
  | ask _ call resume, books =>
      (ledger.relies (.lost call) → stops (ledger.enter (.lost call) books)) ∧
        ∀ answer, ledger.relies (.asked call answer) →
          (resume answer).Audits ledger stops ends (ledger.enter (.asked call answer) books)
  | clock resume, books =>
      ∀ now, ledger.relies (.read now) →
        (resume now).Audits ledger stops ends (ledger.enter (.read now) books)
  | count event next, books =>
      next.Audits ledger stops ends (ledger.enter (.counted event) books)

theorem Audits.imp {stops broken : G → Prop} {first second : G → σ → α → Prop}
    {script : Script I σ α} {books : G} (haudits : script.Audits ledger stops first books)
    (hbreaks : ∀ books, stops books → broken books)
    (himplies : ∀ books held value, first books held value → second books held value) :
    script.Audits ledger broken second books := by
  induction script generalizing books with
  | done held value => exact himplies books held value haudits
  | ask held call resume ih =>
      exact ⟨fun hrelied => hbreaks _ (haudits.1 hrelied),
        fun answer hrelied => ih answer (haudits.2 answer hrelied)⟩
  | clock resume ih => exact fun now hrelied => ih now (haudits now hrelied)
  | count event next ih => exact ih haudits

theorem audits_bind {stops : G → Prop} {ends : G → τ → β → Prop} (script : Script I τ α)
    (next : τ → α → Script I τ β) (books : G) :
    (script.bind next).Audits ledger stops ends books ↔
      script.Audits ledger stops
        (fun books held value => (next held value).Audits ledger stops ends books) books := by
  induction script generalizing books with
  | done held value => rfl
  | ask held call resume ih => simp only [bind, Audits, ih]
  | clock resume ih => simp only [bind, Audits, ih]
  | count event rest ih => exact ih _

end Script

namespace Work

variable {I : Interface} {G : Type} {ledger : Ledger I G}

def Passes (ledger : Ledger I G) (next : α → Work I σ β)
    (ends : G → σ → Except Fault β → Prop) : G → σ → Except Fault α → Prop
  | books, held, .ok value => (next value held).Yields ledger ends books
  | books, held, .error fault => ends books held (.error fault)

@[simp] theorem yields_bind {work : Work I σ α} {next : α → Work I σ β}
    {ends : G → σ → Except Fault β → Prop} {held : σ} {books : G} :
    Script.Yields ledger ends ((work >>= next) held) books ↔
      (work held).Yields ledger (Passes ledger next ends) books := by
  change Script.Yields ledger ends (work.andThen next held) books ↔ _
  rw [andThen, Script.yields_bind]
  apply Iff.of_eq
  congr 1
  funext books held result
  cases result with
  | ok value => rfl
  | error fault => rfl

theorem yields_andThen {work : Work I σ α} {next : α → Work I σ β}
    {middle : G → σ → Except Fault α → Prop} {ends : G → σ → Except Fault β → Prop}
    {held : σ} {books : G} (hfirst : (work held).Yields ledger middle books)
    (hok : ∀ books held value, middle books held (.ok value) →
      (next value held).Yields ledger ends books)
    (herror : ∀ books held fault, middle books held (.error fault) →
      ends books held (.error fault)) :
    Script.Yields ledger ends ((work >>= next) held) books := by
  refine yields_bind.mpr (hfirst.imp fun books held result hknown => ?_)
  cases result with
  | ok value => exact hok books held value hknown
  | error fault => exact herror books held fault hknown

@[simp] theorem yields_ofExcept {ends : G → σ → Except Fault α → Prop} {held : σ} {books : G}
    {result : Except Fault α} :
    ((ofExcept result : Work I σ α) held).Yields ledger ends books ↔ ends books held result := by
  cases result with
  | ok value => rfl
  | error fault => rfl

theorem yields_held_then {next : σ → Work I σ β} {ends : G → σ → Except Fault β → Prop} {held : σ}
    {books : G} (hfollows : (next held held).Yields ledger ends books) :
    Script.Yields ledger ends (((Work.held : Work I σ σ) >>= next) held) books :=
  yields_bind.mpr hfollows

theorem yields_ask_then {call : I.Call} {next : I.Answer call → Work I σ β}
    {ends : G → σ → Except Fault β → Prop} {held : σ} {books : G}
    (hfollows : ∀ answer, ledger.relies (.asked call answer) →
      (next answer held).Yields ledger ends (ledger.enter (.asked call answer) books)) :
    Script.Yields ledger ends (((ask call : Work I σ (I.Answer call)) >>= next) held) books :=
  yields_bind.mpr hfollows

@[simp] theorem yields_attempt {work : Work I σ α}
    {ends : G → σ → Except Fault (Except Fault α) → Prop} {held : σ} {books : G} :
    ((attempt work) held).Yields ledger ends books ↔
      (work held).Yields ledger (fun books held result => ends books held (.ok result)) books :=
  Script.yields_bind _ _ _

variable {stops : G → Prop}

theorem audits_andThen {work : Work I σ α} {next : α → Work I σ β}
    {middle : G → σ → Except Fault α → Prop} {ends : G → σ → Except Fault β → Prop}
    {held : σ} {books : G} (hfirst : (work held).Audits ledger stops middle books)
    (hok : ∀ books held value, middle books held (.ok value) →
      (next value held).Audits ledger stops ends books)
    (herror : ∀ books held fault, middle books held (.error fault) →
      ends books held (.error fault)) :
    Script.Audits ledger stops ends ((work >>= next) held) books := by
  refine (Script.audits_bind _ _ _).mpr
      (hfirst.imp (fun _ => id) fun books held result hknown => ?_)
  cases result with
  | ok value => exact hok books held value hknown
  | error fault => exact herror books held fault hknown

theorem audits_attempt {work : Work I σ α} {ends : G → σ → Except Fault (Except Fault α) → Prop}
    {held : σ} {books : G} :
    ((attempt work) held).Audits ledger stops ends books ↔
      (work held).Audits ledger stops (fun books held result => ends books held (.ok result))
        books :=
  Script.audits_bind _ _ _

theorem audits_ofExcept {ends : G → σ → Except Fault α → Prop} {held : σ} {books : G}
    {result : Except Fault α} :
    ((ofExcept result : Work I σ α) held).Audits ledger stops ends books ↔
      ends books held result := by
  cases result with
  | ok value => rfl
  | error fault => rfl

end Work

end BucketKeys
