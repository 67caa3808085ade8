import Mathlib.Data.Fin.Basic
import Mathlib.Data.List.Basic

namespace ScarcityRouter.Lib

/-!
# Retained logs

A log that numbers its entries from one on, and may have discarded its oldest ones.  Nothing here
names the router.

* `RetainedLog` — what is left, above the number of entries that came before.
* `RetainedLog.Retains` — the log is the end of a history.
* `RetainedLog.append`, `RetainedLog.trim` — a new entry, and the discarding of old ones until the
  rest fits its bounds.
* `RetainedLog.RetainsWithin` — it is the longest end that fits; `RetainsWithin.push` — and stays so
  when an entry is appended and old ones are discarded.
* `RetainedLog.longest` — that end, computed.
* `Retains.after` — **what a reader finds after a number, from the floor on, is what the history has
  after it.**
-/

variable {α : Type*} {x : α} {xs : List α} {n k : ℕ}

/-! ### Numbers -/

/-- The entries under the numbers that follow `n`. -/
def numberedAfter (n : ℕ) (xs : List α) : List (α × ℕ) := xs.zipIdx (n + 1)

@[simp] theorem numberedAfter_nil : numberedAfter n ([] : List α) = [] := rfl

@[simp] theorem numberedAfter_cons :
    numberedAfter n (x :: xs) = (x, n + 1) :: numberedAfter (n + 1) xs := rfl

@[simp] theorem length_numberedAfter : (numberedAfter n xs).length = xs.length := List.length_zipIdx

@[simp] theorem map_fst_numberedAfter : (numberedAfter n xs).map Prod.fst = xs :=
  List.zipIdx_map_fst _ _

theorem numberedAfter_concat :
    numberedAfter n (xs ++ [x]) = numberedAfter n xs ++ [(x, n + xs.length + 1)] := by
  unfold numberedAfter
  rw [List.zipIdx_append, List.zipIdx_singleton, Nat.add_right_comm]

/-- The numbers lie above the first, and go as far as there are entries. -/
theorem bounds_of_mem_numberedAfter {entry : α × ℕ} (h : entry ∈ numberedAfter n xs) :
    n < entry.2 ∧ entry.2 ≤ n + xs.length := by
  induction xs generalizing n with
  | nil => cases h
  | cons x xs ih =>
    rw [numberedAfter_cons, List.mem_cons] at h
    rw [List.length_cons]
    rcases h with rfl | h
    · exact ⟨Nat.lt_succ_self n, by show n + 1 ≤ _; omega⟩
    · obtain ⟨hlow, hhigh⟩ := ih h
      omega

/-- The numbers ascend. -/
theorem pairwise_numberedAfter : (numberedAfter n xs).Pairwise (·.2 < ·.2) := by
  induction xs generalizing n with
  | nil => exact .nil
  | cons x xs ih =>
    rw [numberedAfter_cons, List.pairwise_cons]
    exact ⟨fun entry hentry => (bounds_of_mem_numberedAfter hentry).1, ih⟩

/-- **The entries beyond a number** are those of the rest of the list. -/
theorem filter_numberedAfter (h : n ≤ k) :
    (numberedAfter n xs).filter (k < ·.2) = numberedAfter k (xs.drop (k - n)) := by
  induction xs generalizing n with
  | nil => simp
  | cons x xs ih =>
    rcases h.eq_or_lt with rfl | hlt
    · rw [Nat.sub_self, List.drop_zero, List.filter_eq_self]
      exact fun entry hentry => decide_eq_true (bounds_of_mem_numberedAfter hentry).1
    · obtain ⟨m, hm⟩ : ∃ m, k - n = m + 1 := ⟨k - n - 1, by omega⟩
      have hfirst : ¬ k < n + 1 := by omega
      rw [numberedAfter_cons, List.filter_cons_of_neg (by simpa using hfirst), ih hlt, hm,
        List.drop_succ_cons]
      congr 2
      omega

/-! ### Logs -/

/-- The entries that a log retains, above the number of those it has discarded. -/
structure RetainedLog (α : Type*) where
  floor : ℕ := 0
  entries : List α := []

namespace RetainedLog

variable (log : RetainedLog α)

/-- The number of the newest entry. -/
def high : ℕ := log.floor + log.entries.length

/-- The entries with their numbers. -/
def numbered : List (α × ℕ) := numberedAfter log.floor log.entries

def append (x : α) : RetainedLog α := { log with entries := log.entries ++ [x] }

/-- Discard old entries until the rest fits. -/
def trimFrom (fits : List α → Bool) : ℕ → List α → RetainedLog α
  | floor, [] => ⟨floor, []⟩
  | floor, x :: xs => if fits (x :: xs) then ⟨floor, x :: xs⟩ else trimFrom fits (floor + 1) xs

def trim (fits : List α → Bool) : RetainedLog α := trimFrom fits log.floor log.entries

/-- The log is the end of a history. -/
structure Retains (history : List α) : Prop where
  floor_le : log.floor ≤ history.length
  entries_eq : log.entries = history.drop log.floor

variable {log} {history : List α}

theorem Retains.high_eq (h : log.Retains history) : log.high = history.length := by
  have hfloor := h.floor_le
  unfold high
  rw [h.entries_eq, List.length_drop]
  omega

/-- A new entry is the next of the history. -/
theorem Retains.append (h : log.Retains history) : (log.append x).Retains (history ++ [x]) where
  floor_le := h.floor_le.trans (by simp)
  entries_eq := by
    show log.entries ++ [x] = (history ++ [x]).drop log.floor
    rw [List.drop_append_of_le_length h.floor_le, h.entries_eq]

theorem numbered_append :
    (log.append x).numbered = log.numbered ++ [(x, log.high + 1)] := numberedAfter_concat

/-! ### Bounds -/

variable {fits : List α → Bool}

/-- What is left fits, if nothing at all does. -/
theorem fits_trimFrom (hempty : fits [] = true) : fits (trimFrom fits n xs).entries = true := by
  fun_induction trimFrom fits n xs with
  | case1 floor => exact hempty
  | case2 floor x xs hfits => exact hfits
  | case3 floor x xs hfits ih => exact ih

/-- Without its oldest entry, the log is still the end of the history. -/
theorem Retains.tail (h : (⟨n, x :: xs⟩ : RetainedLog α).Retains history) :
    (⟨n + 1, xs⟩ : RetainedLog α).Retains history := by
  have hentries : x :: xs = history.drop n := h.entries_eq
  have hlength := congrArg List.length hentries
  rw [List.length_cons, List.length_drop] at hlength
  refine ⟨?_, ?_⟩
  · show n + 1 ≤ history.length
    omega
  · show xs = history.drop (n + 1)
    rw [← List.tail_drop, ← hentries, List.tail_cons]

theorem Retains.trimFrom (h : (⟨n, xs⟩ : RetainedLog α).Retains history) :
    (trimFrom fits n xs).Retains history := by
  fun_induction RetainedLog.trimFrom fits n xs with
  | case1 floor => exact h
  | case2 floor x xs hfits => exact h
  | case3 floor x xs hfits ih => exact ih h.tail

/-- The discarding stops as soon as the rest fits. -/
theorem Retains.least_trimFrom (h : (⟨n, xs⟩ : RetainedLog α).Retains history)
    (hleast : ∀ k < n, fits (history.drop k) = false) :
    ∀ k < (RetainedLog.trimFrom fits n xs).floor, fits (history.drop k) = false := by
  fun_induction RetainedLog.trimFrom fits n xs with
  | case1 floor => exact hleast
  | case2 floor x xs hfits => exact hleast
  | case3 floor x xs hfits ih =>
    refine ih h.tail ?_
    intro k hk
    by_cases hlast : k = floor
    · have hentries : x :: xs = history.drop floor := h.entries_eq
      rw [hlast, ← hentries]
      exact Bool.eq_false_iff.mpr hfits
    · exact hleast k (by omega)

/-- The log retains the longest end of the history that fits. -/
structure RetainsWithin (fits : List α → Bool) (log : RetainedLog α) (history : List α) : Prop
    extends log.Retains history where
  within : fits log.entries = true
  least : ∀ k < log.floor, fits (history.drop k) = false

/-- **An entry is appended and old ones are discarded.** -/
theorem RetainsWithin.push (h : RetainsWithin fits log history) (hempty : fits [] = true)
    (hmono : ∀ xs x, fits (xs ++ [x]) = true → fits xs = true) :
    RetainsWithin fits ((log.append x).trim fits) (history ++ [x]) where
  toRetains := h.toRetains.append.trimFrom
  within := fits_trimFrom hempty
  least := by
    refine h.toRetains.append.least_trimFrom ?_
    intro k hk
    -- What did not fit before does not fit with one entry more.
    have hold := h.least k hk
    have hle : k ≤ history.length := by
      have hfloor := h.floor_le
      omega
    rw [List.drop_append_of_le_length hle]
    cases hnew : fits (history.drop k ++ [x]) with
    | false => rfl
    | true => rw [hmono _ _ hnew] at hold; cases hold

/-- There is one longest end. -/
theorem RetainsWithin.unique {log' : RetainedLog α} (h : RetainsWithin fits log history)
    (h' : RetainsWithin fits log' history) : log = log' := by
  have hfloor : log.floor = log'.floor := by
    rcases Nat.lt_trichotomy log.floor log'.floor with hlt | heq | hgt
    · have hwithin := h.within
      rw [h.entries_eq, h'.least _ hlt] at hwithin
      cases hwithin
    · exact heq
    · have hwithin := h'.within
      rw [h'.entries_eq, h.least _ hgt] at hwithin
      cases hwithin
  obtain ⟨floor, entries⟩ := log
  obtain ⟨floor', entries'⟩ := log'
  obtain rfl : floor = floor' := hfloor
  obtain rfl : entries = entries' := h.entries_eq.trans h'.entries_eq.symm
  rfl

/-- The longest end of a history that fits. -/
def longest (fits : List α → Bool) (history : List α) : RetainedLog α := trimFrom fits 0 history

theorem retainsWithin_longest (hempty : fits [] = true) :
    RetainsWithin fits (longest fits history) history where
  toRetains := Retains.trimFrom ⟨Nat.zero_le _, rfl⟩
  within := fits_trimFrom hempty
  least := Retains.least_trimFrom ⟨Nat.zero_le _, rfl⟩ nofun

/-- **An append to the longest end, trimmed, is the longest end of the longer history.** -/
theorem trim_append_longest (hempty : fits [] = true)
    (hmono : ∀ xs x, fits (xs ++ [x]) = true → fits xs = true) :
    ((longest fits history).append x).trim fits = longest fits (history ++ [x]) :=
  ((retainsWithin_longest hempty).push hempty hmono).unique (retainsWithin_longest hempty)

/-! ### Readers -/

/-- **What the log has after a number**, from its floor on, is what the history has. -/
theorem Retains.after (h : log.Retains history) (hfloor : log.floor ≤ k) :
    log.numbered.filter (k < ·.2) = numberedAfter k (history.drop k) := by
  unfold numbered
  rw [filter_numberedAfter hfloor, h.entries_eq, List.drop_drop, Nat.add_sub_cancel' hfloor]

end RetainedLog

end ScarcityRouter.Lib
