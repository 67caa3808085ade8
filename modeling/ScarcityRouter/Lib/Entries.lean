import Mathlib.Data.List.Nodup
import ScarcityRouter.Lib.Checked

namespace ScarcityRouter.Lib

/-!
# Dictionaries as lists of entries

A dictionary in insertion order, and the loop that merges the entries of another one into it.
Nothing here names the router.

* `entry?` — the value of a key; `assign` — `entries[key] = value`.
* `mergeEntries` — each incoming entry is put to a rule, together with what is held under its key.
* `MergedEntry` — what a merge leaves under one key.
* `mergeEntries_spec`, `returns_mergeEntries` — **a merge of distinct keys treats each key on its
  own.**
-/

variable {κ α ε : Type} [DecidableEq κ] {entries incoming merged : List (κ × α)} {k k' : κ} {a b : α}

/-! ### Entries -/

/-- The value of a key: that of its first entry. -/
def entry? (entries : List (κ × α)) (k : κ) : Option α :=
  (entries.find? fun entry => entry.1 = k).map Prod.snd

/-- Assign a value to a key; a key that is held keeps its place. -/
def assign (k : κ) (a : α) : List (κ × α) → List (κ × α)
  | [] => [(k, a)]
  | entry :: entries => if entry.1 = k then (k, a) :: entries else entry :: assign k a entries

@[simp] theorem entry?_nil : entry? ([] : List (κ × α)) k = none := rfl

theorem entry?_cons : entry? ((k', a) :: entries) k = if k' = k then some a else entry? entries k := by
  unfold entry?
  by_cases h : k' = k
  · rw [List.find?_cons_of_pos (by simpa using h), if_pos h]
    rfl
  · rw [List.find?_cons_of_neg (by simpa using h), if_neg h]

theorem entry?_eq_none : entry? entries k = none ↔ k ∉ entries.map Prod.fst := by
  unfold entry?
  rw [Option.map_eq_none_iff, List.find?_eq_none]
  constructor
  · intro h hk
    obtain ⟨entry, hentry, hkey⟩ := List.mem_map.mp hk
    exact h entry hentry (decide_eq_true hkey)
  · intro h entry hentry hkey
    exact h (List.mem_map.mpr ⟨entry, hentry, of_decide_eq_true hkey⟩)

/-- The value of a key is one of its entries. -/
theorem mem_of_entry? (h : entry? entries k = some a) : (k, a) ∈ entries := by
  obtain ⟨⟨key, value⟩, hfind, rfl⟩ := Option.map_eq_some_iff.mp h
  obtain rfl : key = k := of_decide_eq_true (List.find?_some hfind :)
  exact List.mem_of_find?_eq_some hfind

/-- **What is read after an assignment.** -/
theorem entry?_assign :
    entry? (assign k a entries) k' = if k = k' then some a else entry? entries k' := by
  induction entries with
  | nil => exact entry?_cons
  | cons entry entries ih =>
    obtain ⟨key, value⟩ := entry
    unfold assign
    dsimp only
    by_cases hkey : key = k
    · subst hkey
      rw [if_pos rfl, entry?_cons, entry?_cons]
      split_ifs <;> rfl
    · rw [if_neg hkey, entry?_cons, entry?_cons, ih]
      by_cases h : key = k'
      · subst h
        rw [if_pos rfl, if_neg (Ne.symm hkey), if_pos rfl]
      · rw [if_neg h, if_neg h]

/-- An assignment of the value that is held changes nothing. -/
theorem assign_of_entry? (h : entry? entries k = some a) : assign k a entries = entries := by
  induction entries with
  | nil => cases h
  | cons entry entries ih =>
    obtain ⟨key, value⟩ := entry
    rw [ entry?_cons] at h
    unfold assign
    dsimp only
    by_cases hkey : key = k
    · rw [if_pos hkey] at h ⊢
      rw [Option.some.inj h, hkey]
    · rw [if_neg hkey] at h ⊢
      rw [ih h]

theorem mem_keys_assign :
    k' ∈ (assign k a entries).map Prod.fst ↔ k' = k ∨ k' ∈ entries.map Prod.fst := by
  rw [← not_iff_not, ← entry?_eq_none, entry?_assign, not_or, ← entry?_eq_none]
  by_cases h : k = k'
  · simp [h]
  · simp [h, Ne.symm h]

/-! ### Merges -/

/-- Merge the incoming entries one by one: the rule gets the key, what is held under it and the
    incoming value. -/
def mergeEntries (rule : κ → Option α → α → Except ε α) (entries incoming : List (κ × α)) :
    Except ε (List (κ × α)) :=
  incoming.foldlM
    (fun entries entry => (assign entry.1 · entries) <$> rule entry.1 ( entry? entries entry.1) entry.2)
    entries

/-- What a merge leaves under a key: what is held, or what the rule says. -/
inductive MergedEntry (rule : κ → Option α → α → Except ε α) (k : κ) :
    Option α → Option α → Option α → Prop
  | kept (held : Option α) : MergedEntry rule k held none held
  | ruled {held : Option α} {value result : α} (h : rule k held value = .ok result) :
    MergedEntry rule k held (some value) (some result)

section Merge

variable {rule : κ → Option α → α → Except ε α}

@[simp] theorem mergeEntries_nil : mergeEntries rule entries [] = .ok entries := rfl

theorem mergeEntries_cons : mergeEntries rule entries ((k, a) :: incoming) =
    rule k ( entry? entries k) a >>= fun b => mergeEntries rule (assign k b entries) incoming := by
  show ((assign k · entries) <$> rule k ( entry? entries k) a >>= fun entries =>
    mergeEntries rule entries incoming) = _
  cases rule k ( entry? entries k) a <;> rfl

/-- **Each key is merged on its own**: an entry that was merged before has another key. -/
theorem mergeEntries_spec (hkeys : (incoming.map Prod.fst).Nodup)
    (h : mergeEntries rule entries incoming = .ok merged) (k : κ) :
    MergedEntry rule k ( entry? entries k) ( entry? incoming k) ( entry? merged k) := by
  induction incoming generalizing entries with
  | nil =>
    obtain rfl := Except.ok.inj h
    exact .kept _
  | cons entry incoming ih =>
    obtain ⟨key, value⟩ := entry
    rw [mergeEntries_cons] at h
    obtain ⟨result, hrule, h⟩ := bind_eq_ok.mp h
    obtain ⟨hfresh, hkeys⟩ := List.nodup_cons.mp hkeys
    have hrest := ih hkeys h
    rw [ entry?_assign] at hrest
    rw [ entry?_cons]
    by_cases hkey : key = k
    · subst hkey
      rw [if_pos rfl, entry?_eq_none.mpr hfresh] at hrest
      rw [if_pos rfl]
      generalize entry? merged key = found at hrest ⊢
      cases hrest with
      | kept => exact .ruled hrule
    · rw [if_neg hkey] at hrest
      rw [if_neg hkey]
      exact hrest

/-- **A merge returns** exactly when the rule does for each entry and what was held under its key
    at the start. -/
theorem returns_mergeEntries (hkeys : (incoming.map Prod.fst).Nodup) :
    Returns (mergeEntries rule entries incoming) ↔
      ∀ k, ∀ a ∈ entry? incoming k, Returns (rule k ( entry? entries k) a) := by
  induction incoming generalizing entries with
  | nil => simp
  | cons entry incoming ih =>
    obtain ⟨key, value⟩ := entry
    obtain ⟨hfresh, hkeys⟩ := List.nodup_cons.mp hkeys
    rw [mergeEntries_cons, returns_bind]
    constructor
    · rintro ⟨result, hrule, hrest⟩ k a ha
      have hk := (ih hkeys).mp hrest k
      rw [ entry?_cons] at ha
      rw [ entry?_assign] at hk
      by_cases hkey : key = k
      · subst hkey
        rw [if_pos rfl] at ha
        obtain rfl := Option.some.inj ha
        exact ⟨result, hrule⟩
      · rw [if_neg hkey] at ha hk
        exact hk a ha
    · intro h
      obtain ⟨result, hrule⟩ := h key value (by rw [ entry?_cons, if_pos rfl]; rfl)
      refine ⟨result, hrule, (ih hkeys).mpr fun k a ha => ?_⟩
      have hne : key ≠ k := by
        rintro rfl
        rw [ entry?_eq_none.mpr hfresh] at ha
        cases ha
      have hk := h k a (by rw [ entry?_cons, if_neg hne]; exact ha)
      rwa [ entry?_assign, if_neg hne]

/-- **A merge raises what the rule raises** for an entry and what was held under its key at the
    start. -/
theorem ends_mergeEntries {E : ε → Prop} (hkeys : (incoming.map Prod.fst).Nodup)
    (h : ∀ k, ∀ a ∈ entry? incoming k, Ends E (fun _ => True) (rule k ( entry? entries k) a)) :
    Ends E (fun _ => True) (mergeEntries rule entries incoming) := by
  induction incoming generalizing entries with
  | nil => trivial
  | cons entry incoming ih =>
    obtain ⟨key, value⟩ := entry
    obtain ⟨hfresh, hkeys⟩ := List.nodup_cons.mp hkeys
    rw [mergeEntries_cons]
    refine ends_bind_and.mpr ⟨h key value (by rw [ entry?_cons, if_pos rfl]; rfl), fun result _ =>
      ih hkeys fun k a ha => ?_⟩
    have hne : key ≠ k := by
      rintro rfl
      rw [ entry?_eq_none.mpr hfresh] at ha
      cases ha
    have hk := h k a (by rw [ entry?_cons, if_neg hne]; exact ha)
    rwa [ entry?_assign, if_neg hne]

/-- A merge adds the incoming keys and no others. -/
theorem keys_mergeEntries (h : mergeEntries rule entries incoming = .ok merged)
    (hk : k ∈ merged.map Prod.fst) : k ∈ entries.map Prod.fst ∨ k ∈ incoming.map Prod.fst := by
  induction incoming generalizing entries with
  | nil =>
    obtain rfl := Except.ok.inj h
    exact .inl hk
  | cons entry incoming ih =>
    obtain ⟨key, value⟩ := entry
    rw [mergeEntries_cons] at h
    obtain ⟨result, -, h⟩ := bind_eq_ok.mp h
    rw [List.map_cons, List.mem_cons]
    rcases ih h with hheld | hincoming
    · rcases mem_keys_assign.mp hheld with rfl | hheld
      · exact .inr (.inl rfl)
      · exact .inl hheld
    · exact .inr (.inr hincoming)

end Merge

end ScarcityRouter.Lib
