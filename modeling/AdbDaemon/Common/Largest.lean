import Mathlib.Data.List.Sort
import Mathlib.Tactic.Common

/-!
# The largest elements of a list

`beyond n xs` is what is left of `xs` when its `n` largest elements are kept, from the largest down.
Of a list without repetition at most `n` elements are kept (`length_le_of_not_mem_beyond`), and
every one of them is larger than every other element (`lt_of_mem_beyond`).
-/

namespace AdbDaemon.Common

universe u

variable {α : Type u} [LinearOrder α] {n : Nat} {xs : List α} {x y : α}

/-- From the largest to the smallest. -/
def descending (xs : List α) : List α := (xs.insertionSort (· ≤ ·)).reverse

/-- All but the `n` largest. -/
def beyond (n : Nat) (xs : List α) : List α := (descending xs).drop n

theorem descending_perm (xs : List α) : (descending xs).Perm xs :=
  (List.reverse_perm _).trans (List.perm_insertionSort _ xs)

theorem mem_descending : x ∈ descending xs ↔ x ∈ xs := (descending_perm xs).mem_iff

/-- Without repetitions every element is above all that follow it. -/
theorem pairwise_descending (h : xs.Nodup) : (descending xs).Pairwise (· > ·) := by
  have hsorted : (xs.insertionSort (· ≤ ·)).Pairwise (· ≤ ·) := List.pairwise_insertionSort _ xs
  have hnodup : (xs.insertionSort (· ≤ ·)).Nodup := (List.perm_insertionSort _ xs).nodup_iff.mpr h
  rw [descending, List.pairwise_reverse]
  exact hsorted.imp₂ (fun _ _ hle hne => lt_of_le_of_ne hle hne) hnodup

/-- What lies beyond the `n` largest has no repetitions either. -/
theorem nodup_beyond (h : xs.Nodup) : (beyond n xs).Nodup :=
  ((descending_perm xs).nodup_iff.mpr h).sublist (List.drop_sublist n _)

/-- What is kept is among the first `n`. -/
theorem mem_take_of_not_mem_beyond (hx : x ∈ xs) (hkept : x ∉ beyond n xs) :
    x ∈ (descending xs).take n := by
  rw [← mem_descending, ← List.take_append_drop n (descending xs), List.mem_append] at hx
  exact hx.resolve_right hkept

/-- What lies beyond the `n` largest is below each of these. -/
theorem lt_of_mem_beyond (h : xs.Nodup) (hx : x ∈ beyond n xs) (hy : y ∈ xs)
    (hkept : y ∉ beyond n xs) : x < y := by
  have hpair := pairwise_descending h
  rw [← List.take_append_drop n (descending xs), List.pairwise_append] at hpair
  exact hpair.2.2 y (mem_take_of_not_mem_beyond hy hkept) x hx

/-- At most `n` elements are kept. -/
theorem length_le_of_not_mem_beyond {ys : List α} (h : ys.Nodup)
    (hys : ∀ y ∈ ys, y ∈ xs ∧ y ∉ beyond n xs) : ys.length ≤ n := by
  have hsub : ys ⊆ (descending xs).take n := fun y hy =>
    mem_take_of_not_mem_beyond (hys y hy).1 (hys y hy).2
  have hlen := List.Nodup.length_le_of_subset h hsub
  exact hlen.trans (List.length_take_le _ _)

end AdbDaemon.Common
