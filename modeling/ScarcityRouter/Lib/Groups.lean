import Mathlib.Data.List.Induction
import Mathlib.Data.List.Nodup

namespace ScarcityRouter.Lib

/-!
# Groups by key

A dictionary of lists, filled by appending to the list of a key.  Nothing here names the router.

* `appendTo` — append to the list of one key, which begins empty.
* `groupPairs` — the dictionary of a list of pairs.
* `mem_groupPairs` — **the list of a key is what was paired with it**, in order.
-/

variable {κ α : Type*} [DecidableEq κ] {groups : List (κ × List α)} {pairs : List (κ × α)}
  {k k' : κ} {a : α} {values : List α}

/-- `groups.setdefault(k, []).append(a)`. -/
def appendTo : List (κ × List α) → κ → α → List (κ × List α)
  | [], k, a => [(k, [a])]
  | (k', values) :: rest, k, a =>
    if k' = k then (k', values ++ [a]) :: rest else (k', values) :: appendTo rest k a

/-- The dictionary of the pairs. -/
def groupPairs (pairs : List (κ × α)) : List (κ × List α) :=
  pairs.foldl (fun groups pair => appendTo groups pair.1 pair.2) []

/-- The values paired with a key. -/
def valuesOf (pairs : List (κ × α)) (k : κ) : List α := (pairs.filter (·.1 = k)).map (·.2)

theorem mem_keys_appendTo :
    k ∈ (appendTo groups k' a).map (·.1) ↔ k ∈ groups.map (·.1) ∨ k = k' := by
  induction groups with
  | nil => simp [appendTo]
  | cons group rest ih =>
    obtain ⟨other, values⟩ := group
    unfold appendTo
    split_ifs with h
    · subst h
      simp only [List.map_cons, List.mem_cons]
      tauto
    · rw [List.map_cons, List.mem_cons, ih, List.map_cons, List.mem_cons, or_assoc]

/-- A dictionary keeps each key once. -/
theorem nodup_keys_appendTo (h : (groups.map (·.1)).Nodup) :
    ((appendTo groups k a).map (·.1)).Nodup := by
  induction groups with
  | nil => exact List.nodup_singleton _
  | cons group rest ih =>
    obtain ⟨other, values⟩ := group
    obtain ⟨hnotMem, hrest⟩ := List.nodup_cons.mp h
    unfold appendTo
    split_ifs with heq
    · exact h
    · refine List.nodup_cons.mpr ⟨fun hmem => ?_, ih hrest⟩
      rcases mem_keys_appendTo.mp hmem with hmem | hmem
      · exact hnotMem hmem
      · exact heq hmem

/-- The list of another key stays as it is. -/
theorem mem_appendTo_of_ne (h : k ≠ k') :
    (k, values) ∈ appendTo groups k' a ↔ (k, values) ∈ groups := by
  induction groups with
  | nil => simp [appendTo, h]
  | cons group rest ih =>
    obtain ⟨other, old⟩ := group
    unfold appendTo
    split_ifs with heq
    · subst heq
      simp [h]
    · rw [List.mem_cons, ih, List.mem_cons]

/-- The list of the key grows by the value. -/
theorem mem_appendTo_self (hkeys : (groups.map (·.1)).Nodup) :
    (k, values) ∈ appendTo groups k a ↔
      (∃ old, (k, old) ∈ groups ∧ values = old ++ [a]) ∨
        (k ∉ groups.map (·.1) ∧ values = [a]) := by
  induction groups with
  | nil => simp [appendTo]
  | cons group rest ih =>
    obtain ⟨other, old⟩ := group
    obtain ⟨hnotMem, hrest⟩ := List.nodup_cons.mp hkeys
    unfold appendTo
    split_ifs with heq
    · subst heq
      have hnone : ∀ values, (other, values) ∉ rest := fun values hmem =>
        hnotMem (List.mem_map.mpr ⟨_, hmem, rfl⟩)
      simp [hnone]
    · simp [ih hrest, Ne.symm heq]

/-- The keys of the dictionary are those of the pairs. -/
theorem mem_keys_groupPairs : k ∈ (groupPairs pairs).map (·.1) ↔ k ∈ pairs.map (·.1) := by
  induction pairs using List.reverseRecOn with
  | nil => rfl
  | append_singleton pairs pair ih =>
    unfold groupPairs at ih ⊢
    rw [List.foldl_append, List.foldl_cons, List.foldl_nil, mem_keys_appendTo, ih]
    simp

theorem nodup_keys_groupPairs : ((groupPairs pairs).map (·.1)).Nodup := by
  induction pairs using List.reverseRecOn with
  | nil => exact List.nodup_nil
  | append_singleton pairs pair ih =>
    unfold groupPairs at ih ⊢
    rw [List.foldl_append, List.foldl_cons, List.foldl_nil]
    exact nodup_keys_appendTo ih

/-- **The list of a key is what was paired with it**, in order. -/
theorem mem_groupPairs : (k, values) ∈ groupPairs pairs ↔
    k ∈ pairs.map (·.1) ∧ values = valuesOf pairs k := by
  induction pairs using List.reverseRecOn generalizing values with
  | nil => simp [groupPairs]
  | append_singleton pairs pair ih =>
    obtain ⟨k', a⟩ := pair
    have hfold : groupPairs (pairs ++ [(k', a)]) = appendTo (groupPairs pairs) k' a := by
      unfold groupPairs
      rw [List.foldl_append, List.foldl_cons, List.foldl_nil]
    rw [hfold]
    by_cases hkey : k = k'
    · subst hkey
      rw [mem_appendTo_self nodup_keys_groupPairs, mem_keys_groupPairs]
      have hvalues : valuesOf (pairs ++ [(k, a)]) k = valuesOf pairs k ++ [a] := by
        simp [valuesOf]
      by_cases hmem : k ∈ pairs.map (·.1)
      · simp [ih, hmem, hvalues]
      · -- The first value of the key.
        have hnone : valuesOf pairs k = [] := by
          unfold valuesOf
          rw [List.map_eq_nil_iff, List.filter_eq_nil_iff]
          intro pair hpair hfirst
          exact hmem (List.mem_map.mpr ⟨pair, hpair, of_decide_eq_true hfirst⟩)
        simp [ih, hmem, hvalues, hnone]
    · have hvalues : valuesOf (pairs ++ [(k', a)]) k = valuesOf pairs k := by
        simp [valuesOf, Ne.symm hkey]
      rw [mem_appendTo_of_ne hkey, ih, hvalues]
      simp [hkey]

end ScarcityRouter.Lib
