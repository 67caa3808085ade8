import Mathlib.Data.List.Induction
import Mathlib.Logic.Function.Basic
import ScarcityRouter.Lib.SortBy

namespace ScarcityRouter.Lib

/-!
# Stores that keep the last write

A keyed store without any check against what it holds: the value of a key is its last write.
Nothing here names the router.

* `recordAll` — the store after some writes, and `lastWrite` — the last write of a key.
* `recordAll_eq_lastWrite` — **the store holds the last writes.**
* `recordAll_comm` — **batches of different keys** can be written in either order.
* `Newest` — what the store holds of a key bears the greatest stamp of all its writes.
* `newest_append_iff` — **a batch keeps that exactly when it is not older** than what is held.
-/

variable {α κ τ : Type*} [DecidableEq κ] {key : α → κ} {stamp : α → τ} {writes batch : List α}
  {k : κ} {a : α}

/-! ### The store -/

/-- Write the values in order, each under its key. -/
def recordAll (key : α → κ) (store : κ → Option α) (writes : List α) : κ → Option α :=
  writes.foldl (fun store a => Function.update store (key a) (some a)) store

/-- The last write of a key. -/
def lastWrite (key : α → κ) (writes : List α) (k : κ) : Option α :=
  writes.reverse.find? (key · == k)

theorem recordAll_append {store : κ → Option α} : recordAll key store (writes ++ batch) =
    recordAll key (recordAll key store writes) batch :=
  List.foldl_append

/-- What the store holds was written, or was there before. -/
theorem recordAll_eq_some {store : κ → Option α} (h : recordAll key store writes k = some a) :
    (a ∈ writes ∧ key a = k) ∨ store k = some a := by
  induction writes generalizing store with
  | nil => exact .inr h
  | cons b writes ih =>
    rcases ih h with ⟨hmem, hkey⟩ | hstore
    · exact .inl ⟨List.mem_cons_of_mem _ hmem, hkey⟩
    · dsimp only at hstore
      by_cases hkey : k = key b
      · subst hkey
        rw [Function.update_self] at hstore
        exact .inl ⟨Option.some.inj hstore ▸ List.mem_cons_self, by rw [Option.some.inj hstore]⟩
      · rw [Function.update_of_ne hkey] at hstore
        exact .inr hstore

/-- A write goes past a batch of other keys. -/
theorem recordAll_update {store : κ → Option α} (h : ∀ b ∈ batch, key b ≠ k) :
    recordAll key (Function.update store k (some a)) batch =
      Function.update (recordAll key store batch) k (some a) := by
  induction batch generalizing store with
  | nil => rfl
  | cons b batch ih =>
    obtain ⟨hb, hbatch⟩ := List.forall_mem_cons.mp h
    unfold recordAll at ih ⊢
    rw [List.foldl_cons, Function.update_comm hb.symm, ih hbatch]
    rfl

/-- **Batches of different keys** can be written in either order. -/
theorem recordAll_comm {store : κ → Option α} (h : ∀ a ∈ writes, ∀ b ∈ batch, key b ≠ key a) :
    recordAll key (recordAll key store writes) batch =
      recordAll key (recordAll key store batch) writes := by
  induction writes generalizing store with
  | nil => rfl
  | cons a writes ih =>
    obtain ⟨ha, hwrites⟩ := List.forall_mem_cons.mp h
    exact (ih hwrites).trans (congrArg (recordAll key · writes) (recordAll_update ha))

theorem lastWrite_concat :
    lastWrite key (writes ++ [a]) = Function.update (lastWrite key writes) (key a) (some a) := by
  funext k
  unfold lastWrite
  rw [List.reverse_append, List.reverse_singleton, List.singleton_append, List.find?_cons]
  by_cases h : key a = k
  · subst h
    rw [Function.update_self, beq_self_eq_true]
  · rw [Function.update_of_ne (Ne.symm h), beq_eq_false_iff_ne.mpr h]

/-- **The store holds the last writes.** -/
theorem recordAll_eq_lastWrite :
    recordAll key (fun _ => none) writes = lastWrite key writes := by
  induction writes using List.reverseRecOn with
  | nil => rfl
  | append_singleton writes a ih => rw [recordAll_append, ih, lastWrite_concat]; rfl

/-- What is held was written under its key. -/
theorem mem_of_lastWrite (h : lastWrite key writes k = some a) : a ∈ writes ∧ key a = k := by
  have hfind : writes.reverse.find? (key · == k) = some a := h
  have hkey := List.find?_some hfind
  exact ⟨List.mem_reverse.mp (List.mem_of_find?_eq_some hfind), beq_iff_eq.mp hkey⟩

/-- A key that was written is held. -/
theorem exists_lastWrite (h : a ∈ writes) : ∃ b, lastWrite key writes (key a) = some b := by
  cases hlast : lastWrite key writes (key a) with
  | some b => exact ⟨b, rfl⟩
  | none =>
    have hnone := List.find?_eq_none.mp hlast a (List.mem_reverse.mpr h)
    exact absurd (beq_self_eq_true _) hnone

/-- A batch that writes each key once is held as it is. -/
theorem lastWrite_append_of_mem (hdistinct : (batch.map key).Nodup) (h : a ∈ batch) :
    lastWrite key (writes ++ batch) (key a) = some a := by
  have hfind : batch.reverse.find? (key · == key a) = some a := by
    refine find?_eq_some_of_unique (List.mem_reverse.mpr h) (beq_self_eq_true _) ?_
    intro b hb hkey
    exact List.inj_on_of_nodup_map hdistinct (List.mem_reverse.mp hb) h (beq_iff_eq.mp hkey)
  unfold lastWrite
  rw [List.reverse_append, List.find?_append, hfind, Option.some_or]

/-- A batch leaves the keys it does not write. -/
theorem lastWrite_append_of_notMem (h : k ∉ batch.map key) :
    lastWrite key (writes ++ batch) k = lastWrite key writes k := by
  unfold lastWrite
  rw [List.reverse_append, List.find?_append, List.find?_eq_none.mpr ?_, Option.none_or]
  intro b hb hkey
  exact h (List.mem_map.mpr ⟨b, List.mem_reverse.mp hb, beq_iff_eq.mp hkey⟩)

/-! ### Stamps -/

section Newest

variable [LinearOrder τ]

/-- What is held of a key bears the greatest stamp of all its writes. -/
def Newest (key : α → κ) (stamp : α → τ) (writes : List α) : Prop :=
  ∀ k a, lastWrite key writes k = some a → ∀ b ∈ writes, key b = k → stamp b ≤ stamp a

theorem newest_nil : Newest key stamp ([] : List α) := by
  intro k a h
  cases h

/-- **A batch keeps the newest writes** exactly when none of it is older than what is held. -/
theorem newest_append_iff (h : Newest key stamp writes) (hdistinct : (batch.map key).Nodup) :
    Newest key stamp (writes ++ batch) ↔
      ∀ b ∈ batch, ∀ a, lastWrite key writes (key b) = some a → stamp a ≤ stamp b := by
  constructor
  · intro hnewest b hb a ha
    have hheld : lastWrite key (writes ++ batch) (key b) = some b :=
      lastWrite_append_of_mem hdistinct hb
    obtain ⟨hmem, hkey⟩ := mem_of_lastWrite ha
    exact hnewest _ _ hheld a (List.mem_append_left _ hmem) hkey
  · intro hbatch k a ha b hb hkey
    by_cases hk : k ∈ batch.map key
    · -- The key is written by the batch: it holds the batch's write.
      obtain ⟨c, hc, rfl⟩ := List.mem_map.mp hk
      rw [lastWrite_append_of_mem hdistinct hc] at ha
      obtain rfl := Option.some.inj ha
      rcases List.mem_append.mp hb with hb | hb
      · obtain ⟨d, hd⟩ := @exists_lastWrite _ _ _ key _ _ hb
        have hold := h _ _ hd b hb rfl
        rw [hkey] at hd
        exact hold.trans (hbatch c hc d hd)
      · rw [List.inj_on_of_nodup_map hdistinct hb hc hkey]
    · rw [lastWrite_append_of_notMem hk] at ha
      rcases List.mem_append.mp hb with hb | hb
      · exact h k a ha b hb hkey
      · exact absurd (List.mem_map.mpr ⟨b, hb, hkey⟩) hk

end Newest

end ScarcityRouter.Lib
