import Mathlib.Data.List.Forall2
import Mathlib.Data.List.MinMax
import Mathlib.Order.Lattice

namespace ScarcityRouter.Lib

/-!
# Lists related entry by entry

What list operations keep of a relation `r` that holds between the entries of two lists, position
by position (`List.Forall₂ r`), and of one between optional values (`Option.Rel r`).

* `forall₂_filter`, `forall₂_any` — predicates that agree on related entries.
* `exists_of_forall₂` — an entry of the left list has a related one on the right.
* `min?_rel_of_forall₂` — entries that went down have a minimum that went down.
-/

variable {α : Type*} {r : α → α → Prop} {p : α → Bool} {xs ys : List α}

/-- Related lists stay related under a filter that agrees on related entries. -/
theorem forall₂_filter (hp : ∀ {x y}, r x y → p y = p x) (h : List.Forall₂ r xs ys) :
    List.Forall₂ r (xs.filter p) (ys.filter p) :=
  List.rel_filter (fun x y hxy => by show p x = true ↔ p y = true; rw [hp hxy]) h

/-- A predicate that agrees on related entries holds somewhere in both lists, or in neither. -/
theorem forall₂_any (hp : ∀ {x y}, r x y → p y = p x) (h : List.Forall₂ r xs ys) :
    ys.any p = xs.any p := by
  induction h with
  | nil => rfl
  | cons hxy _ ih => rw [List.any_cons, List.any_cons, hp hxy, ih]

/-- Every entry on the left is related to one on the right. -/
theorem exists_of_forall₂ {x : α} (h : List.Forall₂ r xs ys) (hx : x ∈ xs) : ∃ y ∈ ys, r x y := by
  induction h with
  | nil => exact absurd hx List.not_mem_nil
  | cons hxy _ ih =>
    rcases List.mem_cons.mp hx with rfl | hx
    · exact ⟨_, List.mem_cons_self, hxy⟩
    · obtain ⟨y, hy, hr⟩ := ih hx
      exact ⟨y, List.mem_cons_of_mem _ hy, hr⟩

theorem forall₂_eq_nil (h : List.Forall₂ r xs ys) : ys = [] ↔ xs = [] := by
  cases h with
  | nil => exact Iff.rfl
  | cons _ _ => simp

/-- The first match of a predicate that agrees on related entries is a related one. -/
theorem find?_rel_of_forall₂ (hp : ∀ {x y}, r x y → p y = p x) (h : List.Forall₂ r xs ys) :
    Option.Rel r (xs.find? p) (ys.find? p) := by
  induction h with
  | nil => exact .none
  | @cons x y _ _ hxy _ ih =>
    rw [List.find?_cons, List.find?_cons, hp hxy]
    cases p x with
    | true => exact .some hxy
    | false => exact ih

/-- Entries that went down have a minimum that went down. -/
theorem min?_rel_of_forall₂ [LinearOrder α] (h : List.Forall₂ (fun x y => y ≤ x) xs ys) :
    Option.Rel (fun x y => y ≤ x) xs.min? ys.min? := by
  cases hx : xs.min? with
  | none =>
    rw [List.min?_eq_none_iff] at hx
    rw [(forall₂_eq_nil h).mpr hx]
    exact .none
  | some x =>
    -- The least entry on the left went down, and the least on the right is below it.
    obtain ⟨y, hy, hle⟩ := exists_of_forall₂ h (List.min?_mem hx)
    obtain ⟨least, hleast⟩ : ∃ least, ys.min? = some least :=
      Option.isSome_iff_exists.mp (List.isSome_min?_of_mem hy)
    rw [hleast]
    exact .some (le_trans ((List.le_min?_iff hleast).mp (le_refl least) y hy) hle)

/-- Two related options are both absent or both present. -/
theorem isNone_of_rel {a b : Option α} (h : Option.Rel r a b) : b.isNone = a.isNone := by
  cases h with
  | none => rfl
  | some _ => rfl

end ScarcityRouter.Lib
