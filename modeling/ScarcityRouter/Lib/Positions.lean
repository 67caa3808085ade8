import Mathlib.Data.List.Basic

namespace ScarcityRouter.Lib

/-!
# One position of a list

A list whose entry at one position is rewritten, replaced or appended: what is read at every
position afterwards.  Nothing here names the router.

* `getElem?_modify_self`, `getElem?_set_eq_some`, `getElem?_concat_eq_some` — **the entry read
  afterwards is the new one or an old one**.
* `filter_of_unique` — what a filter keeps that passes one position.
* `map_modify`, `map_modify_eq` — what a projection of the entries sees of a rewriting.
-/

variable {α β : Type*} {xs : List α} {x y b : α} {i j : ℕ} {f : α → α} {g : α → β}

/-! ### Reading a position -/

theorem getElem?_modify_self (h : xs[i]? = some x) : (xs.modify i f)[i]? = some (f x) := by
  rw [List.getElem?_modify, h]
  simp

/-- What stands in a list with one entry replaced. -/
theorem getElem?_set_eq_some (h : (xs.set i x)[j]? = some b) :
    (j = i ∧ b = x) ∨ xs[j]? = some b := by
  rw [List.getElem?_set] at h
  split_ifs at h with hij hlt
  · exact .inl ⟨hij.symm, (Option.some.inj h).symm⟩
  · exact .inr h

/-- An entry of a list with one more is an old one or the new one. -/
theorem getElem?_concat_eq_some (h : (xs ++ [x])[j]? = some b) :
    xs[j]? = some b ∨ (j = xs.length ∧ b = x) := by
  rcases Nat.lt_trichotomy j xs.length with hlt | rfl | hgt
  · rw [List.getElem?_append_left hlt] at h
    exact .inl h
  · rw [List.getElem?_concat_length] at h
    exact .inr ⟨rfl, (Option.some.inj h).symm⟩
  · rw [List.getElem?_eq_none (by simp; omega)] at h
    cases h

/-- An entry whose replacement looks the same to `g` leaves every entry a stand-in. -/
theorem exists_mem_set (h : xs[i]? = some x) (hsame : g b = g x) (hy : y ∈ xs) :
    ∃ after ∈ xs.set i b, g after = g y := by
  obtain ⟨k, hk⟩ := List.mem_iff_getElem?.mp hy
  by_cases hik : i = k
  · subst hik
    obtain rfl := Option.some.inj (h.symm.trans hk)
    refine ⟨b, List.mem_of_getElem? (i := i) ?_, hsame⟩
    rw [List.getElem?_set_self (List.getElem?_eq_some_iff.mp h).1]
  · refine ⟨y, List.mem_of_getElem? (i := k) ?_, rfl⟩
    rw [List.getElem?_set_ne hik, hk]

/-- A filter that one position passes keeps the entry there. -/
theorem filter_of_unique {p : α → Bool} (h : xs[i]? = some x) (hx : p x = true)
    (hunique : ∀ k y, xs[k]? = some y → p y = true → k = i) : xs.filter p = [x] := by
  induction xs generalizing i with
  | nil => cases h
  | cons z xs ih =>
    cases i with
    | zero =>
      obtain rfl := Option.some.inj h
      rw [List.filter_cons_of_pos hx]
      congr 1
      refine List.filter_eq_nil_iff.mpr fun y hy hpy => ?_
      obtain ⟨k, hk⟩ := List.mem_iff_getElem?.mp hy
      exact absurd (hunique (k + 1) y hk hpy) (Nat.succ_ne_zero k)
    | succ i =>
      have hz : ¬ p z = true := fun hz => absurd (hunique 0 z rfl hz) (Nat.succ_ne_zero i).symm
      rw [List.filter_cons_of_neg hz]
      exact ih h fun k y hk hy => Nat.succ.inj (hunique (k + 1) y hk hy)

/-! ### Projections -/

/-- A projection sees a rewriting as one replacement. -/
theorem map_modify (h : xs[i]? = some x) : (xs.modify i f).map g = (xs.map g).set i (g (f x)) := by
  apply List.ext_getElem?
  intro k
  rw [List.getElem?_map, List.getElem?_modify, List.getElem?_set, List.length_map,
    List.getElem?_map]
  by_cases hik : i = k
  · subst hik
    obtain ⟨hi, rfl⟩ := List.getElem?_eq_some_iff.mp h
    simp [hi]
  · cases xs[k]? with
    | none => simp [hik]
    | some other => simp [hik]

/-- A projection does not see a rewriting that keeps what it looks at. -/
theorem map_modify_eq (h : ∀ x, xs[i]? = some x → g (f x) = g x) :
    (xs.modify i f).map g = xs.map g := by
  apply List.ext_getElem?
  intro k
  rw [List.getElem?_map, List.getElem?_modify, List.getElem?_map]
  by_cases hik : i = k
  · subst hik
    cases hx : xs[i]? with
    | none => rfl
    | some x => simp [h x hx]
  · cases xs[k]? with
    | none => rfl
    | some other => simp [hik]

end ScarcityRouter.Lib
