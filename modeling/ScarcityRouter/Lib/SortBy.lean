import Mathlib.Data.List.Sort
import Mathlib.Data.List.Dedup
import Mathlib.Data.List.Nodup
import Mathlib.Order.Lex
import Mathlib.Data.Prod.Lex

namespace ScarcityRouter.Lib

/-!
# Sorting by a key

The one sorting vocabulary of the development.  Nothing here names the router.

* `sortBy key xs` — the stable sort of `xs` by `key`, on insertion sort so that it reduces
  in the kernel; `sortBy_eq_of_perm` says that it forgets the input order whenever the keys
  tell the elements apart.
* `sortedSet xs` — the strictly increasing list of the values of `xs`.
* `StrictlySorted xs` — sorted without duplicates, as a decidable predicate.
* `find?_eq_of_perm` — a first-match search is order independent once matches are unique.
-/

variable {α β κ : Type*} [LinearOrder κ]

/-! ### Stable sort by a key -/

/-- The stable sort of `xs` by `key`. -/
def sortBy (key : α → κ) (xs : List α) : List α :=
  xs.insertionSort fun a b => key a ≤ key b

theorem sortBy_perm (key : α → κ) (xs : List α) : (sortBy key xs).Perm xs :=
  List.perm_insertionSort _ xs

@[simp] theorem mem_sortBy {key : α → κ} {xs : List α} {a : α} :
    a ∈ sortBy key xs ↔ a ∈ xs :=
  (sortBy_perm key xs).mem_iff

@[simp] theorem length_sortBy (key : α → κ) (xs : List α) :
    (sortBy key xs).length = xs.length :=
  (sortBy_perm key xs).length_eq

@[simp] theorem sortBy_eq_nil {key : α → κ} {xs : List α} : sortBy key xs = [] ↔ xs = [] := by
  rw [← List.length_eq_zero_iff, length_sortBy, List.length_eq_zero_iff]

theorem pairwise_sortBy (key : α → κ) (xs : List α) :
    (sortBy key xs).Pairwise fun a b => key a ≤ key b := by
  have : Std.Total fun a b : α => key a ≤ key b := ⟨fun a b => le_total (key a) (key b)⟩
  have : IsTrans α fun a b => key a ≤ key b := ⟨fun _ _ _ => le_trans⟩
  exact List.pairwise_insertionSort _ xs

/-- A list already in key order is left alone. -/
theorem sortBy_eq_self {key : α → κ} {xs : List α}
    (h : xs.Pairwise fun a b => key a ≤ key b) : sortBy key xs = xs :=
  List.Pairwise.insertionSort_eq h

theorem sortBy_sortBy (key : α → κ) (xs : List α) :
    sortBy key (sortBy key xs) = sortBy key xs :=
  sortBy_eq_self (pairwise_sortBy key xs)

/-- When the keys tell the elements apart, sorting forgets the order of the input. -/
theorem sortBy_eq_of_perm {key : α → κ} {xs ys : List α} (h : xs.Perm ys)
    (inj : ∀ a ∈ xs, ∀ b ∈ xs, key a = key b → a = b) :
    sortBy key xs = sortBy key ys := by
  have hp : (sortBy key xs).Perm (sortBy key ys) :=
    (sortBy_perm key xs).trans (h.trans (sortBy_perm key ys).symm)
  refine hp.eq_of_pairwise ?_ (pairwise_sortBy key xs) (pairwise_sortBy key ys)
  intro a b ha hb hab hba
  refine inj a (mem_sortBy.mp ha) b ?_ (le_antisymm hab hba)
  exact h.symm.subset (mem_sortBy.mp hb)

/-- Distinct keys make the sort strictly increasing. -/
theorem pairwise_lt_sortBy {key : α → κ} {xs : List α} (h : (xs.map key).Nodup) :
    (sortBy key xs).Pairwise fun a b => key a < key b := by
  have hnd : ((sortBy key xs).map key).Nodup :=
    ((sortBy_perm key xs).map key).nodup_iff.mpr h
  have hne : (sortBy key xs).Pairwise fun a b => key a ≠ key b := List.pairwise_map.mp hnd
  exact (pairwise_sortBy key xs).and hne |>.imp fun hab => lt_of_le_of_ne hab.1 hab.2

/-- The head of the sort has a minimal key. -/
theorem sortBy_head_le {key : α → κ} {xs rest : List α} {a b : α}
    (h : sortBy key xs = a :: rest) (hb : b ∈ xs) : key a ≤ key b := by
  have hpw := pairwise_sortBy key xs
  have hmem : b ∈ sortBy key xs := mem_sortBy.mpr hb
  rw [h] at hpw hmem
  rcases List.mem_cons.mp hmem with rfl | hrest
  · exact le_rfl
  · exact (List.pairwise_cons.mp hpw).1 b hrest

/-- Sorting commutes with a map that carries the key. -/
theorem map_sortBy {key : α → κ} {key' : β → κ} (f : α → β)
    (hkey : ∀ a, key' (f a) = key a) (xs : List α) :
    (sortBy key xs).map f = sortBy key' (xs.map f) := by
  refine List.map_insertionSort _ _ f xs ?_
  intro a _ b _
  simp only [hkey]

/-! ### The sorted set of values -/

/-- Sorted and duplicate free. -/
abbrev StrictlySorted (xs : List κ) : Prop := xs.Pairwise (· < ·)

/-- The strictly increasing list of the values of `xs`. -/
def sortedSet (xs : List κ) : List κ := sortBy id xs.dedup

@[simp] theorem mem_sortedSet {xs : List κ} {a : κ} : a ∈ sortedSet xs ↔ a ∈ xs := by
  simp only [sortedSet, mem_sortBy, List.mem_dedup]

theorem strictlySorted_sortedSet (xs : List κ) : StrictlySorted (sortedSet xs) := by
  refine pairwise_lt_sortBy ?_
  rw [List.map_id']
  exact xs.nodup_dedup

@[simp] theorem sortedSet_nil : sortedSet ([] : List κ) = [] := rfl

@[simp] theorem sortedSet_eq_nil {xs : List κ} : sortedSet xs = [] ↔ xs = [] := by
  simp only [List.eq_nil_iff_forall_not_mem, mem_sortedSet]

theorem StrictlySorted.nodup {xs : List κ} (h : StrictlySorted xs) : xs.Nodup :=
  h.imp ne_of_lt

/-- A duplicate-free list sorts to a strictly sorted one. -/
theorem strictlySorted_sortBy_id {xs : List κ} (h : xs.Nodup) :
    StrictlySorted (sortBy id xs) := by
  refine pairwise_lt_sortBy ?_
  rw [List.map_id']
  exact h

/-! ### First matches -/

/-- A first-match search ignores the order of the list once matching elements agree. -/
theorem find?_eq_of_perm {p : α → Bool} {xs ys : List α} (h : xs.Perm ys)
    (uniq : ∀ a ∈ xs, ∀ b ∈ xs, p a → p b → a = b) : xs.find? p = ys.find? p := by
  cases hx : xs.find? p with
  | none =>
    refine (List.find?_eq_none.mpr fun b hb => ?_).symm
    exact List.find?_eq_none.mp hx b (h.symm.subset hb)
  | some a =>
    have ha : a ∈ xs := List.mem_of_find?_eq_some hx
    have hpa : p a := List.find?_some hx
    cases hy : ys.find? p with
    | none => exact absurd hpa (List.find?_eq_none.mp hy a (h.subset ha))
    | some b =>
      have hb : b ∈ xs := h.symm.subset (List.mem_of_find?_eq_some hy)
      rw [uniq a ha b hb hpa (List.find?_some hy)]

/-- A search whose matches are unique returns any match. -/
theorem find?_eq_some_of_unique {p : α → Bool} {xs : List α} {a : α} (ha : a ∈ xs) (hp : p a)
    (uniq : ∀ b ∈ xs, p b → b = a) : xs.find? p = some a := by
  cases hx : xs.find? p with
  | none => exact absurd hp (List.find?_eq_none.mp hx a ha)
  | some b => rw [uniq b (List.mem_of_find?_eq_some hx) (List.find?_some hx)]

/-- A filter with a single match is that match. -/
theorem filter_eq_singleton {p : α → Bool} {xs : List α} {a : α} (hnd : xs.Nodup) (ha : a ∈ xs)
    (hp : p a) (uniq : ∀ b ∈ xs, p b → b = a) : xs.filter p = [a] := by
  refine List.perm_singleton.mp ((List.perm_ext_iff_of_nodup (hnd.filter p)
    (List.nodup_singleton a)).mpr fun b => ?_)
  rw [List.mem_filter, List.mem_singleton]
  constructor
  · rintro ⟨hb, hpb⟩
    exact uniq b hb hpb
  · rintro rfl
    exact ⟨ha, hp⟩

/-- A partial map that keeps a label keeps the order of the labels. -/
theorem map_filterMap_sublist {ι : Type*} {f : α → Option β} {label : α → ι} {label' : β → ι}
    {xs : List α} (h : ∀ a ∈ xs, ∀ b ∈ f a, label' b = label a) :
    ((xs.filterMap f).map label').Sublist (xs.map label) := by
  induction xs with
  | nil => exact List.Sublist.slnil
  | cons a rest ih =>
    have htail := ih fun a' ha' => h a' (List.mem_cons_of_mem _ ha')
    cases hf : f a with
    | none =>
      rw [List.filterMap_cons_none hf]
      exact htail.cons _
    | some b =>
      rw [List.filterMap_cons_some hf, List.map_cons, List.map_cons, h a List.mem_cons_self b hf]
      exact htail.cons_cons _

end ScarcityRouter.Lib
