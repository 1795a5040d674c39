import BucketKeys.Backoff
import Mathlib.Data.Nat.Fib.Basic
import Mathlib.Data.UInt
import Mathlib.Logic.Function.Iterate

/-!
The delays of a sequence in closed form. The sums stop at the largest word, which no bound on the
delays exceeds, so that it never shows.
-/

namespace BucketKeys

namespace Backoff

theorem largest_advance_iterate (count : Nat) (backoff : Backoff) :
    (advance^[count] backoff).largest = backoff.largest := by
  induction count with
  | zero => rfl
  | succ count ih =>
      rw [Function.iterate_succ_apply']
      exact ih

theorem terms_advance_iterate (smallest largest : UInt64) (count : Nat) :
    (advance^[count] (between smallest largest)).previous.toNat =
        min ((max smallest 1).toNat * Nat.fib count) (UInt64.size - 1) ∧
      (advance^[count] (between smallest largest)).current.toNat =
        min ((max smallest 1).toNat * Nat.fib (count + 1)) (UInt64.size - 1) := by
  induction count with
  | zero =>
      have hbound := (max smallest 1).toNat_lt_size
      refine ⟨rfl, ?_⟩
      change (max smallest 1).toNat = min ((max smallest 1).toNat * 1) (UInt64.size - 1)
      omega
  | succ count ih =>
      obtain ⟨hprevious, hcurrent⟩ := ih
      rw [Function.iterate_succ_apply']
      refine ⟨hcurrent, ?_⟩
      change (saturatingAdd _ _).toNat = _
      rw [toNat_saturatingAdd, hprevious, hcurrent, Nat.fib_add_two, Nat.mul_add]
      omega

theorem toNat_delay_iterate (smallest largest : UInt64) (count : Nat) :
    (advance^[count] (between smallest largest)).delay.toNat =
      min ((max smallest 1).toNat * Nat.fib (count + 1))
        (max largest (max smallest 1)).toNat := by
  have hbound := (max largest (max smallest 1)).toNat_lt_size
  rw [delay, UInt64.toNat_min, (terms_advance_iterate smallest largest count).2,
    largest_advance_iterate]
  change min _ (max largest (max smallest 1)).toNat = _
  omega

theorem delays_eq_map (count : Nat) (backoff : Backoff) :
    delays count backoff =
        (List.range count).map fun number => (advance^[number] backoff).delay := by
  induction count generalizing backoff with
  | zero => rfl
  | succ count ih =>
      rw [delays, ih, List.range_succ_eq_map, List.map_cons, List.map_map]
      rfl

theorem capped_mono {least most earlier later : Nat} (horder : earlier ≤ later) :
    min most (least * Nat.fib earlier) ≤ min most (least * Nat.fib later) :=
  min_le_min_left most (Nat.mul_le_mul_left least (Nat.fib_mono horder))

/-- For every pair of bounds, the delays are the Fibonacci multiples of the smallest one, up to the
largest; that the sums are words never shows. So they never fall, and stay at the largest once they
have reached it. -/
theorem delays_fibonacci (smallest largest : UInt64) (count : Nat) :
    let least := max smallest.toNat 1
    let most := max largest.toNat least
    (delays count (between smallest largest)).map UInt64.toNat =
        (List.range' 1 count).map (fun number => min most (least * Nat.fib number)) ∧
      (delays count (between smallest largest)).Pairwise (fun earlier later =>
        earlier ≤ later ∧ (earlier.toNat = most → later.toNat = most)) ∧
      ∀ delay ∈ delays count (between smallest largest), 1 ≤ delay.toNat ∧ delay.toNat ≤ most := by
  intro least most
  have hfirst : (max smallest 1).toNat = least := UInt64.toNat_max smallest 1
  have hclosed (number : Nat) : (advance^[number] (between smallest largest)).delay.toNat =
      min most (least * Nat.fib (number + 1)) := by
    rw [toNat_delay_iterate, UInt64.toNat_max largest, hfirst, Nat.min_comm]
  have hpositive (number : Nat) : 1 ≤ least * Nat.fib (number + 1) :=
    Nat.mul_pos (le_max_right smallest.toNat 1) (Nat.fib_pos.mpr number.succ_pos)
  refine ⟨?_, ?_, ?_⟩
  · rw [delays_eq_map, List.map_map, List.range'_eq_map_range, List.map_map]
    apply List.map_congr_left
    intro number _
    change (advance^[number] (between smallest largest)).delay.toNat = _
    rw [hclosed, Function.comp_apply, Nat.add_comm 1 number]
  · rw [delays_eq_map, List.pairwise_map]
    apply List.pairwise_lt_range.imp
    intro earlier later horder
    have hgrows : min most (least * Nat.fib (earlier + 1)) ≤ min most
        (least * Nat.fib (later + 1)) :=
      capped_mono (Nat.succ_le_succ horder.le)
    rw [UInt64.le_iff_toNat_le, hclosed, hclosed]
    refine ⟨hgrows, fun hreached => ?_⟩
    rw [hreached] at hgrows
    exact le_antisymm (min_le_left most _) hgrows
  · intro delay hmember
    rw [delays_eq_map] at hmember
    obtain ⟨number, -, rfl⟩ := List.mem_map.mp hmember
    rw [hclosed]
    have hmost_positive : 1 ≤ most := le_trans (le_max_right _ 1) (le_max_right _ least)
    exact ⟨le_min hmost_positive (hpositive number), min_le_left most _⟩

example : delays 12 (between 1 60) = [1, 1, 2, 3, 5, 8, 13, 21, 34, 55, 60, 60] := by decide

end Backoff

theorem Retry.toNat_delay_iterate (count : Nat) :
    (Backoff.advance^[count] fresh.backoff).delay.toNat = min 60 (Nat.fib (count + 1)) := by
  have hsmallest : (max smallestSeconds 1).toNat = 1 := by decide
  have hlargest : (max largestSeconds (max smallestSeconds 1)).toNat = 60 := by decide
  have hdelay := Backoff.toNat_delay_iterate smallestSeconds largestSeconds count
  rw [hsmallest, hlargest, Nat.one_mul, Nat.min_comm] at hdelay
  exact hdelay

end BucketKeys
