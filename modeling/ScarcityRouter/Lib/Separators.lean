import Mathlib.Data.List.Basic
import Mathlib.Data.List.TakeDrop

namespace ScarcityRouter.Lib

/-!
# Splitting at a separator

Cuts of a list at the first or the last occurrence of a separator.  Nothing here names the router.

* `cutFirst sep xs`, `cutLast sep xs` — what stands before and after that occurrence.
* `cutFirst_append`, `cutLast_append` — a cut undoes the join of two parts, where the part on the
  side of the cut is free of the separator.
* `cutFirst_eq`, `cutLast_eq` — a list with the separator is the join of its cut.
-/

variable {α : Type*} [DecidableEq α]

/-- What stands before and after the first occurrence of the separator. -/
def cutFirst (sep : α) : List α → List α × List α
  | [] => ([], [])
  | x :: xs =>
    if x = sep then ([], xs)
    else
      let (before, after) := cutFirst sep xs
      (x :: before, after)

/-- What stands before and after the last occurrence of the separator. -/
def cutLast (sep : α) (xs : List α) : List α × List α :=
  let (before, after) := cutFirst sep xs.reverse
  (after.reverse, before.reverse)

theorem cutFirst_append {sep : α} {xs : List α} (h : sep ∉ xs) (ys : List α) :
    cutFirst sep (xs ++ sep :: ys) = (xs, ys) := by
  induction xs with
  | nil => simp [cutFirst]
  | cons x xs ih =>
    obtain ⟨hx, hxs⟩ := not_or.mp (mt List.mem_cons.mpr h)
    simp only [List.cons_append, cutFirst, if_neg (Ne.symm hx), ih hxs]

theorem cutFirst_eq {sep : α} {xs : List α} (h : sep ∈ xs) :
    (cutFirst sep xs).1 ++ sep :: (cutFirst sep xs).2 = xs := by
  induction xs with
  | nil => cases h
  | cons x xs ih =>
    unfold cutFirst
    by_cases hx : x = sep
    · rw [if_pos hx, hx]
      rfl
    · rw [if_neg hx]
      have hxs := (List.mem_cons.mp h).resolve_left (Ne.symm hx)
      exact congrArg (x :: ·) (ih hxs)

/-- The separator does not stand before its first occurrence. -/
theorem notMem_cutFirst (sep : α) (xs : List α) : sep ∉ (cutFirst sep xs).1 := by
  induction xs with
  | nil => exact List.not_mem_nil
  | cons x xs ih =>
    unfold cutFirst
    by_cases hx : x = sep
    · rw [if_pos hx]
      exact List.not_mem_nil
    · rw [if_neg hx]
      exact List.not_mem_cons_of_ne_of_not_mem (Ne.symm hx) ih

theorem cutLast_append {sep : α} {ys : List α} (h : sep ∉ ys) (xs : List α) :
    cutLast sep (xs ++ sep :: ys) = (xs, ys) := by
  unfold cutLast
  rw [List.reverse_append, List.reverse_cons, List.append_assoc, List.singleton_append,
    cutFirst_append (by simpa using h)]
  simp

theorem cutLast_eq {sep : α} {xs : List α} (h : sep ∈ xs) :
    (cutLast sep xs).1 ++ sep :: (cutLast sep xs).2 = xs := by
  have hcut := @cutFirst_eq _ _ sep _ (List.mem_reverse.mpr h)
  have hback := congrArg List.reverse hcut
  unfold cutLast
  simpa using hback

end ScarcityRouter.Lib
