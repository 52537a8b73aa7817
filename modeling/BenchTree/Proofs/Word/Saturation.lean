import BenchTree.Word
import Mathlib

/-!
# Counts that stop at the largest word

Where sums and products of counts stop at the largest word at every step, the outcome is that of
exact arithmetic, stopped once in the end. Counts only grow, so one that has stopped is never
called back, except by a factor of zero, which is as good as an exact one.
-/

namespace BenchTree.Word

theorem saturate_eq_zero_iff {count : Nat} : saturate count = 0 ↔ count = 0 := by
  have positive : 0 < largest := by decide
  rw [saturate]
  omega

/-- A count that has stopped goes on as the exact one would. -/
theorem saturate_add (count more : Nat) :
    saturate (saturate count + more) = saturate (count + more) := by
  simp only [saturate]
  omega

theorem saturate_mul (count factor : Nat) :
    saturate (saturate count * factor) = saturate (count * factor) := by
  rcases Nat.eq_zero_or_pos factor with rfl | positive
  · rfl
  simp only [saturate]
  rcases le_total count largest with fits | exceeds
  · rw [min_eq_left fits]
  · have stopped : largest ≤ largest * factor := Nat.le_mul_of_pos_right _ positive
    have exact_stops : largest * factor ≤ count * factor := Nat.mul_le_mul_right factor exceeds
    rw [min_eq_right exceeds, min_eq_right stopped, min_eq_right (stopped.trans exact_stops)]

theorem saturatingMul_saturatingMul (first second third : Nat) :
    saturatingMul (saturatingMul first second) third = saturate (first * second * third) :=
  saturate_mul (first * second) third

theorem saturatingMul_saturatingAdd (factor left right : Nat) :
    saturatingMul factor (saturatingAdd left right) = saturate (factor * (left + right)) := by
  rw [saturatingMul, saturatingAdd, Nat.mul_comm, saturate_mul, Nat.mul_comm]

/-- Counts that are added up one after another. -/
theorem foldl_saturatingAdd (counts : List Nat) (start : Nat) :
    counts.foldl saturatingAdd (saturate start) = saturate (start + counts.sum) := by
  induction counts generalizing start with
  | nil => rfl
  | cons first rest ih =>
      rw [List.foldl_cons, saturatingAdd, saturate_add, ih, List.sum_cons, Nat.add_assoc]

end BenchTree.Word
