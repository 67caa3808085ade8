import Mathlib.Data.List.Nodup

namespace ScarcityRouter.Lib

/-!
# Tables with a primary key

Rows in the order in which they were inserted, no two of them under one key: a table of a database,
or a dictionary in insertion order.  Nothing here names the router.

* `Table` — the rows, with the uniqueness of their keys.
* `Table.row?`, `Table.insert`, `Table.modify`, `Table.delete` — the four statements; `Table.put`,
  `Table.erase` — the two of a dictionary.
* `Table.row?_insert`, `Table.row?_modify`, `Table.row?_delete` — **what is read after each.**
* `view_foldl` — what a loop over distinct keys does to each.
-/

/-- Rows under a primary key. -/
structure Table {ρ κ : Type*} (key : ρ → κ) where
  rows : List ρ := []
  distinct : (rows.map key).Nodup := by first | exact List.nodup_nil | decide

namespace Table

variable {ρ κ : Type*} {key : ρ → κ}

@[ext] theorem ext {t t' : Table key} (h : t.rows = t'.rows) : t = t' := by
  obtain ⟨rows, _⟩ := t
  obtain ⟨rows', _⟩ := t'
  obtain rfl : rows = rows' := h
  rfl

instance [DecidableEq ρ] : DecidableEq (Table key) := fun t t' =>
  decidable_of_iff (t.rows = t'.rows) ⟨ext, fun h => h ▸ rfl⟩

variable [DecidableEq κ] (t : Table key)

/-- The row under a key. -/
def row? (k : κ) : Option ρ := t.rows.find? (key · == k)

variable {t} {r row : ρ} {k k' : κ}

/-- A row is found under its key, and under no other. -/
theorem row?_eq_some : t.row? k = some r ↔ r ∈ t.rows ∧ key r = k := by
  unfold row?
  constructor
  · intro h
    have hkey := List.find?_some h
    exact ⟨List.mem_of_find?_eq_some h, beq_iff_eq.mp hkey⟩
  · rintro ⟨hmem, rfl⟩
    obtain ⟨found, hfound⟩ : ∃ found, t.rows.find? (key · == key r) = some found := by
      rw [← Option.isSome_iff_exists, List.find?_isSome]
      exact ⟨r, hmem, beq_self_eq_true _⟩
    have hkey := List.find?_some hfound
    have hsame := List.inj_on_of_nodup_map t.distinct (List.mem_of_find?_eq_some hfound) hmem
      (beq_iff_eq.mp hkey)
    rw [hfound, hsame]

theorem row?_eq_none : t.row? k = none ↔ ∀ r ∈ t.rows, key r ≠ k := by
  unfold row?
  simp

/-- The rows of a table are the rows it finds. -/
theorem mem_rows : r ∈ t.rows ↔ t.row? (key r) = some r := by
  rw [row?_eq_some]
  exact (and_iff_left rfl).symm

/-! ### Insertion -/

/-- Insert a row whose key is not in use. -/
def insert (t : Table key) (row : ρ) (h : t.row? (key row) = none) : Table key where
  rows := t.rows ++ [row]
  distinct := by
    rw [List.map_append, List.map_singleton]
    refine t.distinct.append (List.nodup_singleton _) ?_
    rw [List.disjoint_singleton]
    intro hmem
    obtain ⟨r, hr, hkey⟩ := List.mem_map.mp hmem
    exact row?_eq_none.mp h r hr hkey

@[simp] theorem rows_insert (h : t.row? (key row) = none) :
    (t.insert row h).rows = t.rows ++ [row] := rfl

theorem row?_insert (h : t.row? (key row) = none) :
    (t.insert row h).row? k = if key row = k then some row else t.row? k := by
  split_ifs with hk
  · rw [row?_eq_some]
    exact ⟨List.mem_append_right _ List.mem_cons_self, hk⟩
  · show (t.rows ++ [row]).find? (key · == k) = t.rows.find? (key · == k)
    rw [List.find?_append, List.find?_singleton, if_neg (by simpa using hk), Option.or_none]

/-- A row is found in every table that continues the one it is in. -/
theorem row?_of_prefix {t' : Table key} (h : t.rows <+: t'.rows) (hrow : t.row? k = some r) :
    t'.row? k = some r := by
  rw [row?_eq_some] at hrow ⊢
  exact ⟨h.subset hrow.1, hrow.2⟩

/-! ### Updates -/

/-- Rewrite the row under a key. -/
def modify (t : Table key) (k : κ) (f : ρ → ρ) (hf : ∀ r, key (f r) = key r) : Table key where
  rows := t.rows.map fun r => if key r = k then f r else r
  distinct := by
    have hkeys : (t.rows.map fun r => if key r = k then f r else r).map key = t.rows.map key := by
      rw [List.map_map]
      refine List.map_congr_left fun r _ => ?_
      show key (if key r = k then f r else r) = key r
      split_ifs
      · exact hf r
      · rfl
    rw [hkeys]
    exact t.distinct

theorem row?_modify {f : ρ → ρ} (hf : ∀ r, key (f r) = key r) :
    (t.modify k f hf).row? k' = if k = k' then (t.row? k').map f else t.row? k' := by
  have hsearch : ∀ rows : List ρ,
      (rows.map fun r => if key r = k then f r else r).find? (key · == k') =
        if k = k' then (rows.find? (key · == k')).map f else rows.find? (key · == k') := by
    intro rows
    induction rows with
    | nil => split_ifs <;> rfl
    | cons r rows ih =>
      have hkey : key (if key r = k then f r else r) = key r := by
        split_ifs
        · exact hf r
        · rfl
      rw [List.map_cons, List.find?_cons, List.find?_cons, hkey, ih]
      by_cases hr : key r = k'
      · rw [hr, beq_self_eq_true]
        by_cases hk : k = k'
        · rw [if_pos hk, if_pos hk.symm, if_pos hk]
          rfl
        · rw [if_neg hk, if_neg (Ne.symm hk), if_neg hk]
      · rw [beq_eq_false_iff_ne.mpr hr]
  exact hsearch t.rows

/-- An update neither adds nor removes a key. -/
@[simp] theorem isSome_row?_modify {f : ρ → ρ} (hf : ∀ r, key (f r) = key r) :
    ((t.modify k f hf).row? k').isSome = (t.row? k').isSome := by
  rw [row?_modify]
  split_ifs
  · exact Option.isSome_map
  · rfl

@[simp] theorem row?_modify_eq_none {f : ρ → ρ} (hf : ∀ r, key (f r) = key r) :
    (t.modify k f hf).row? k' = none ↔ t.row? k' = none := by
  rw [← Option.not_isSome_iff_eq_none, isSome_row?_modify, Option.not_isSome_iff_eq_none]

/-! ### Deletion -/

/-- Delete the rows that meet a condition. -/
def delete (t : Table key) (p : ρ → Bool) : Table key where
  rows := t.rows.filter (!p ·)
  distinct := t.distinct.sublist (List.filter_sublist.map key)

theorem row?_delete {p : ρ → Bool} : (t.delete p).row? k = (t.row? k).filter (!p ·) := by
  apply Option.ext
  intro r
  rw [row?_eq_some, Option.filter_eq_some_iff, row?_eq_some]
  show r ∈ t.rows.filter (!p ·) ∧ _ ↔ _
  rw [List.mem_filter]
  tauto

omit [DecidableEq κ] in
/-- A deletion that meets no row changes nothing, and only such a one. -/
theorem delete_eq_self {p : ρ → Bool} : t.delete p = t ↔ ∀ r ∈ t.rows, p r = false := by
  constructor
  · intro h r hr
    have hrows : t.rows.filter (!p ·) = t.rows := congrArg Table.rows h
    have hkept := List.filter_eq_self.mp hrows r hr
    rwa [Bool.not_eq_true'] at hkept
  · intro h
    apply ext
    show t.rows.filter (!p ·) = t.rows
    rw [List.filter_eq_self]
    intro r hr
    rw [h r hr, Bool.not_false]

/-- Delete the row under a key: `del` of a dictionary. -/
def erase (t : Table key) (k : κ) : Table key := t.delete (key · == k)

theorem row?_erase : (t.erase k).row? k' = if k = k' then none else t.row? k' := by
  unfold erase
  rw [row?_delete]
  apply Option.ext
  intro r
  rw [Option.filter_eq_some_iff, row?_eq_some]
  split_ifs with hk
  · subst hk
    refine ⟨fun ⟨⟨_, hkey⟩, hne⟩ => ?_, nofun⟩
    rw [hkey, beq_self_eq_true] at hne
    cases hne
  · rw [row?_eq_some]
    refine ⟨And.left, fun ⟨hmem, hkey⟩ => ⟨⟨hmem, hkey⟩, ?_⟩⟩
    rw [hkey, beq_false_of_ne (Ne.symm hk), Bool.not_false]

/-! ### Assignment -/

/-- Put a row under its key: an assignment to a dictionary, which keeps the place of a key. -/
def put (t : Table key) (row : ρ) : Table key :=
  if h : t.row? (key row) = none then t.insert row h
  else t.modify (key row) (fun r => if key r = key row then row else r) fun r => by
    split_ifs with hkey
    · exact hkey.symm
    · rfl

theorem row?_put : (t.put row).row? k = if key row = k then some row else t.row? k := by
  unfold put
  by_cases hnew : t.row? (key row) = none
  · rw [dif_pos hnew]
    exact row?_insert hnew
  · rw [dif_neg hnew, row?_modify]
    by_cases hk : key row = k
    · rw [if_pos hk, if_pos hk, ← hk]
      obtain ⟨r, hr⟩ := Option.ne_none_iff_exists'.mp hnew
      rw [hr, Option.map_some, if_pos (row?_eq_some.mp hr).2]
    · rw [if_neg hk, if_neg hk]

/-- What is put there is found, and what was there before. -/
theorem isSome_row?_foldl_put {rows : List ρ} : ((rows.foldl put t).row? k).isSome ↔
    (∃ r ∈ rows, key r = k) ∨ (t.row? k).isSome := by
  induction rows generalizing t with
  | nil => simp
  | cons row rows ih =>
    rw [List.foldl_cons, ih, row?_put]
    by_cases hk : key row = k
    · simp [hk]
    · simp [hk]

/-- Nothing is found but what was there or was put there. -/
theorem mem_rows_foldl_put {rows : List ρ} (h : r ∈ (rows.foldl put t).rows) :
    r ∈ t.rows ∨ r ∈ rows := by
  induction rows generalizing t with
  | nil => exact .inl h
  | cons row rows ih =>
    rcases ih h with h | h
    · rw [mem_rows, row?_put] at h
      split_ifs at h with hk
      · exact .inr (List.mem_cons.mpr (.inl (Option.some.inj h).symm))
      · exact .inl (mem_rows.mpr h)
    · exact .inr (List.mem_cons_of_mem _ h)

end Table

/-! ### Folds over keys -/

/-- **A fold over distinct keys acts once on what is seen of each**, if every round acts on what is
    seen of its own key, and on nothing else. -/
theorem view_foldl {σ κ β : Type*} [DecidableEq κ] {f : σ → κ → σ} {view : κ → σ → β}
    {act : κ → β → β} {P : σ → Prop} {ks : List κ} (hks : ks.Nodup)
    (hkept : ∀ s, ∀ k ∈ ks, P s → P (f s k))
    (hself : ∀ s, ∀ k ∈ ks, P s → view k (f s k) = act k (view k s))
    (hother : ∀ s, ∀ k ∈ ks, ∀ k' ≠ k, P s → view k' (f s k) = view k' s) {s : σ} (hs : P s) :
    P (ks.foldl f s) ∧
      ∀ k, view k (ks.foldl f s) = if k ∈ ks then act k (view k s) else view k s := by
  induction ks generalizing s with
  | nil => exact ⟨hs, fun k => (if_neg List.not_mem_nil).symm⟩
  | cons key ks ih =>
    obtain ⟨hnew, hks⟩ := List.nodup_cons.mp hks
    obtain ⟨hend, hview⟩ := ih hks (fun s k hk => hkept s k (List.mem_cons_of_mem _ hk))
      (fun s k hk => hself s k (List.mem_cons_of_mem _ hk))
      (fun s k hk => hother s k (List.mem_cons_of_mem _ hk)) (hkept s key List.mem_cons_self hs)
    refine ⟨hend, fun k => ?_⟩
    rw [List.foldl_cons, hview k]
    by_cases hk : k = key
    · subst hk
      rw [if_neg hnew, if_pos List.mem_cons_self, hself s k List.mem_cons_self hs]
    · rw [hother s key List.mem_cons_self k hk hs]
      have hmem : k ∈ key :: ks ↔ k ∈ ks := by
        rw [List.mem_cons]
        exact or_iff_right hk
      by_cases hks : k ∈ ks
      · rw [if_pos hks, if_pos (hmem.mpr hks)]
      · rw [if_neg hks, if_neg (hmem.not.mpr hks)]

end ScarcityRouter.Lib
