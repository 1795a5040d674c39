import BucketKeys.Proofs.Pass.Accounts
import BucketKeys.Proofs.TokenApi.Counting

/-!
Every count of the metrics grows by one with each event that it counts, and with no other.
-/

namespace BucketKeys

theorem Dictionary.sum_insertEntry (name : String) (value : Nat) {entries : List (String × Nat)}
    (hascending : entries.Pairwise fun a b => a.1 < b.1) :
    ((insertEntry name value entries).map (·.2)).sum +
        ((entries.find? (·.1 == name)).map (·.2)).getD 0 =
      (entries.map (·.2)).sum + value := by
  induction entries with
  | nil => simp [insertEntry]
  | cons first rest ih =>
      obtain ⟨hbefore, hascending⟩ := List.pairwise_cons.mp hascending
      unfold insertEntry
      split
      · rename_i ahead
        have habsent : (first :: rest).find? (·.1 == name) = none :=
          find?_eq_none_of_forall_lt (List.forall_mem_cons.mpr
            ⟨ahead, fun entry hmember => String.lt_trans ahead (hbefore entry hmember)⟩)
        simp only [habsent, List.map_cons, List.sum_cons, Option.map_none, Option.getD_none]
        omega
      · split
        · rename_i same
          simp only [same, List.find?_cons, beq_self_eq_true, List.map_cons, List.sum_cons,
            Option.map_some, Option.getD_some]
          omega
        · rename_i other
          have hapart : (first.1 == name) = false := by simpa using Ne.symm other
          have hlater := ih hascending
          simp only [List.find?_cons, hapart, List.map_cons, List.sum_cons]
          omega

namespace Metrics

def recordAll (events : List Event) (metrics : Metrics) : Metrics :=
  events.foldl (fun metrics event => metrics.record event) metrics

def failuresOf (label : String) (metrics : Metrics) : Nat :=
  (metrics.failures.get? label).getD 0

def requeueTotal (metrics : Metrics) : Nat :=
  (metrics.requeues.entries.map (·.2)).sum

theorem sum_bump (name : String) (counts : Dictionary Nat) :
    ((bump name counts).entries.map (·.2)).sum = (counts.entries.map (·.2)).sum + 1 := by
  have hchanged := Dictionary.sum_insertEntry name ((counts.get? name).getD 0 + 1) counts.ascending
  change ((Dictionary.insertEntry name _ counts.entries).map (·.2)).sum = _
  rw [Dictionary.get?] at hchanged ⊢
  omega

theorem reading_recordAll (reading : Metrics → Nat) {counted : Event → Bool}
    (hone : ∀ event metrics,
      reading (metrics.record event) = reading metrics + if counted event then 1 else 0)
    (events : List Event) (metrics : Metrics) :
    reading (metrics.recordAll events) = reading metrics + events.countP counted := by
  induction events generalizing metrics with
  | nil => rfl
  | cons event later ih =>
      refine (ih _).trans ?_
      rw [hone, List.countP_cons]
      omega

variable (events : List Event) (metrics : Metrics)

theorem passes_recordAll :
    (metrics.recordAll events).passes = metrics.passes + events.count .passStarted :=
  reading_recordAll passes (fun event _ => by cases event <;> rfl) events metrics

theorem rateLimited_recordAll :
    (metrics.recordAll events).rateLimited = metrics.rateLimited + events.count .rateLimited :=
  reading_recordAll rateLimited (fun event _ => by cases event <;> rfl) events metrics

theorem durations_recordAll :
    (metrics.recordAll events).passSeconds.count =
      metrics.passSeconds.count + events.countP (·.isDuration) :=
  reading_recordAll (·.passSeconds.count) (fun event _ => by cases event <;> rfl) events metrics

theorem created_recordAll :
    (metrics.recordAll events).created = metrics.created + events.count .resourceCreated :=
  reading_recordAll created (fun event _ => by cases event <;> rfl) events metrics

theorem deleted_recordAll :
    (metrics.recordAll events).deleted = metrics.deleted + events.count .resourceDeleted :=
  reading_recordAll deleted (fun event _ => by cases event <;> rfl) events metrics

theorem failuresOf_recordAll (label : String) :
    (metrics.recordAll events).failuresOf label =
      metrics.failuresOf label + events.count (.passFailed label) := by
  refine reading_recordAll (failuresOf label) (fun event metrics => ?_) events metrics
  cases event with
  | passFailed reason =>
      refine (getD_bump reason label metrics.failures).trans ?_
      simp [failuresOf]
  | _ => rfl

theorem requeueTotal_recordAll :
    (metrics.recordAll events).requeueTotal =
      metrics.requeueTotal + events.countP (·.isRequeue) := by
  refine reading_recordAll requeueTotal (fun event metrics => ?_) events metrics
  cases event with
  | requeued reason => exact sum_bump reason metrics.requeues
  | _ => rfl

end Metrics

end BucketKeys
