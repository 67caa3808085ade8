import Mathlib.Data.List.Forall2

namespace ScarcityRouter.Lib

/-!
# Computations that may raise

Inversion and progress rules for `Except`, for programs whose only effect is to raise.

* `bind_eq_ok`, `mapM_eq_ok` — what a successful run says about its parts.
* `Returns x` — the computation returns; `returns_bind`, `returns_mapM`, `mapM_sound` are its
  rules.
* `check c e` — the guard `if not c: raise e`.
* `rejectDuplicates xs err` — the loop that raises at the first repeated element.
* `certify checks h` — checks that have passed, as evidence for a validated record.
* `Ends E V x` — the computation ends with a value in `V` or an error in `E`.
-/

universe u v

variable {ε : Type u} {α β : Type v}

/-! ### Successful runs -/

theorem bind_eq_ok {x : Except ε α} {f : α → Except ε β} {b : β} :
    (x >>= f) = .ok b ↔ ∃ a, x = .ok a ∧ f a = .ok b := by
  cases x <;> simp [Bind.bind, Except.bind]

theorem map_eq_ok {x : Except ε α} {f : α → β} {b : β} :
    (f <$> x) = .ok b ↔ ∃ a, x = .ok a ∧ f a = b := by
  cases x <;> simp [Functor.map, Except.map]

@[simp] theorem ok_bind (a : α) (f : α → Except ε β) : (Except.ok a >>= f) = f a := rfl

@[simp] theorem error_bind (e : ε) (f : α → Except ε β) :
    ((Except.error e : Except ε α) >>= f) = .error e := rfl

@[simp] theorem pure_eq_ok (a : α) : (pure a : Except ε α) = .ok a := rfl

@[simp] theorem mapError_eq_ok {ε' : Type*} {x : Except ε α} {f : ε → ε'} {a : α} :
    x.mapError f = .ok a ↔ x = .ok a := by
  cases x <;> simp [Except.mapError]

/-- A traversal succeeds exactly when it succeeds elementwise. -/
theorem mapM_eq_ok {f : α → Except ε β} {xs : List α} {ys : List β} :
    xs.mapM f = .ok ys ↔ List.Forall₂ (fun x y => f x = .ok y) xs ys := by
  induction xs generalizing ys with
  | nil => cases ys <;> simp
  | cons x xs ih =>
    rw [List.mapM_cons]
    cases hx : f x with
    | error e => cases ys <;> simp [hx]
    | ok y =>
      cases hxs : xs.mapM f with
      | error e =>
        have hno : ∀ zs, ¬ List.Forall₂ (fun x y => f x = .ok y) xs zs := by
          intro zs hzs
          have := ih.mpr hzs
          rw [hxs] at this
          cases this
        cases ys <;> simp [hno]
      | ok zs =>
        cases ys with
        | nil => simp
        | cons w ws =>
          have h := @ih ws
          rw [hxs] at h
          simp only [ok_bind, pure_eq_ok, Except.ok.injEq, List.cons.injEq,
            List.forall₂_cons, hx] at h ⊢
          rw [h]

/-- A traversal of pure steps is a map. -/
theorem mapM_eq_ok_map {f : α → Except ε β} {g : α → β} {xs : List α}
    (h : ∀ x ∈ xs, f x = .ok (g x)) : xs.mapM f = .ok (xs.map g) := by
  rw [mapM_eq_ok, List.forall₂_map_right_iff]
  exact List.forall₂_same.mpr h

/-- Two successful traversals of one list relate position by position as the functions do. -/
theorem forall₂_of_mapM {γ : Type v} {r : β → γ → Prop} {f : α → Except ε β} {g : α → Except ε γ}
    {xs : List α} {ys : List β} {zs : List γ} (hf : xs.mapM f = .ok ys) (hg : xs.mapM g = .ok zs)
    (h : ∀ x y z, f x = .ok y → g x = .ok z → r y z) : List.Forall₂ r ys zs := by
  have hf2 := mapM_eq_ok.mp hf
  have hg2 := mapM_eq_ok.mp hg
  clear hf hg
  induction hf2 generalizing zs with
  | nil =>
    cases hg2
    exact .nil
  | cons hxy _ ih =>
    cases hg2 with
    | cons hxz htail => exact .cons (h _ _ _ hxy hxz) (ih htail)

/-- Every output of a successful traversal comes from an input. -/
theorem exists_of_mem_mapM {f : α → Except ε β} {xs : List α} {ys : List β}
    (h : xs.mapM f = .ok ys) {y : β} (hy : y ∈ ys) : ∃ x ∈ xs, f x = .ok y := by
  have h2 := mapM_eq_ok.mp h
  induction h2 with
  | nil => cases hy
  | cons hxy _ ih =>
    rename_i x y' xs' ys' htail
    rcases List.mem_cons.mp hy with rfl | hy
    · exact ⟨x, List.mem_cons_self, hxy⟩
    · obtain ⟨x', hx', hfx⟩ := ih (mapM_eq_ok.mpr htail) hy
      exact ⟨x', List.mem_cons_of_mem _ hx', hfx⟩

/-- Every input of a successful traversal has its output. -/
theorem exists_mem_of_mapM {f : α → Except ε β} {xs : List α} {ys : List β}
    (h : xs.mapM f = .ok ys) {x : α} (hx : x ∈ xs) : ∃ y ∈ ys, f x = .ok y := by
  have h2 := mapM_eq_ok.mp h
  induction h2 with
  | nil => cases hx
  | cons hxy _ ih =>
    rename_i x' y xs' ys' htail
    rcases List.mem_cons.mp hx with rfl | hx
    · exact ⟨y, List.mem_cons_self, hxy⟩
    · obtain ⟨y', hy', hfx⟩ := ih (mapM_eq_ok.mpr htail) hx
      exact ⟨y', List.mem_cons_of_mem _ hy', hfx⟩

/-- A label that each step of a traversal carries over is carried over by the traversal. -/
theorem map_eq_of_mapM {γ : Type*} {f : α → Except ε β} {g : α → γ} {g' : β → γ} {xs : List α}
    {ys : List β} (h : xs.mapM f = .ok ys) (hlabel : ∀ x y, f x = .ok y → g' y = g x) :
    ys.map g' = xs.map g := by
  have h2 := mapM_eq_ok.mp h
  induction h2 with
  | nil => rfl
  | cons hxy htail ih =>
    rw [List.map_cons, List.map_cons, hlabel _ _ hxy, ih (mapM_eq_ok.mpr htail)]

/-! ### Progress -/

/-- The computation returns a value: it raises nothing. -/
def Returns (x : Except ε α) : Prop := ∃ a, x = .ok a

@[simp] theorem returns_ok (a : α) : Returns (.ok a : Except ε α) := ⟨a, rfl⟩

@[simp] theorem not_returns_error (e : ε) : ¬ Returns (.error e : Except ε α) := by
  rintro ⟨a, h⟩
  cases h

theorem returns_bind {x : Except ε α} {f : α → Except ε β} :
    Returns (x >>= f) ↔ ∃ a, x = .ok a ∧ Returns (f a) := by
  cases x <;> simp

theorem returns_map {x : Except ε α} {f : α → β} : Returns (f <$> x) ↔ Returns x := by
  cases x <;> simp [Functor.map, Except.map]

theorem returns_mapM {f : α → Except ε β} {xs : List α} :
    Returns (xs.mapM f) ↔ ∀ x ∈ xs, Returns (f x) := by
  constructor
  · rintro ⟨ys, h⟩ x hx
    obtain ⟨y, _, hy⟩ := exists_mem_of_mapM h hx
    exact ⟨y, hy⟩
  · intro h
    induction xs with
    | nil => exact ⟨[], rfl⟩
    | cons x xs ih =>
      obtain ⟨y, hy⟩ := h x List.mem_cons_self
      obtain ⟨ys, hys⟩ := ih fun z hz => h z (List.mem_cons_of_mem _ hz)
      exact ⟨y :: ys, by rw [List.mapM_cons, hy, hys]; rfl⟩

/-- **The rule for loops**: a step that returns soundly on every input returns soundly on the
    list, and every input and every output is accounted for. -/
theorem mapM_sound {f : α → Except ε β} {R : α → β → Prop} {xs : List α}
    (h : ∀ x ∈ xs, ∃ y, f x = .ok y ∧ R x y) :
    ∃ ys, xs.mapM f = .ok ys ∧ (∀ y ∈ ys, ∃ x ∈ xs, R x y) ∧ ∀ x ∈ xs, ∃ y ∈ ys, R x y := by
  obtain ⟨ys, hys⟩ := returns_mapM.mpr fun x hx => (h x hx).imp fun _ hy => hy.1
  have hsound : ∀ x ∈ xs, ∀ y, f x = .ok y → R x y := by
    intro x hx y hy
    obtain ⟨y', hy', hR⟩ := h x hx
    rwa [Except.ok.inj (hy.symm.trans hy')]
  refine ⟨ys, hys, fun y hy => ?_, fun x hx => ?_⟩
  · obtain ⟨x, hx, hxy⟩ := exists_of_mem_mapM hys hy
    exact ⟨x, hx, hsound x hx y hxy⟩
  · obtain ⟨y, hy, hxy⟩ := exists_mem_of_mapM hys hx
    exact ⟨y, hy, hsound x hx y hxy⟩

/-- A loop of checks passes exactly when each of them does. -/
theorem forM_eq_ok {f : α → Except ε PUnit} {xs : List α} :
    List.forM xs f = .ok ⟨⟩ ↔ ∀ x ∈ xs, f x = .ok ⟨⟩ := by
  rw [List.forM_eq_forM]
  induction xs with
  | nil => exact ⟨fun _ _ h => absurd h List.not_mem_nil, fun _ => rfl⟩
  | cons x xs ih =>
    rw [List.forM_cons, bind_eq_ok, List.forall_mem_cons, ← ih]
    exact ⟨fun ⟨_, hx, hxs⟩ => ⟨hx, hxs⟩, fun ⟨hx, hxs⟩ => ⟨_, hx, hxs⟩⟩

/-! ### Guards -/

/-- `if not c: raise e`. -/
def check (c : Prop) [Decidable c] (e : ε) : Except ε Unit := if c then .ok () else .error e

@[simp] theorem check_eq_ok {c : Prop} [Decidable c] {e : ε} {u : Unit} :
    check c e = .ok u ↔ c := by
  by_cases h : c <;> simp [check, h]

@[simp] theorem check_eq_error {c : Prop} [Decidable c] {e e' : ε} :
    check c e = .error e' ↔ ¬ c ∧ e = e' := by
  unfold check
  split_ifs with hc <;> simp [hc]

theorem check_pos {c : Prop} [Decidable c] (h : c) (e : ε) : check c e = .ok () := if_pos h

theorem check_neg {c : Prop} [Decidable c] (h : ¬ c) (e : ε) : check c e = .error e := if_neg h

@[simp] theorem returns_check {c : Prop} [Decidable c] {e : ε} : Returns (check c e) ↔ c := by
  simp [Returns]

@[simp] theorem returns_check_bind {c : Prop} [Decidable c] {e : ε} {β : Type}
    {f : Unit → Except ε β} : Returns (check c e >>= f) ↔ c ∧ Returns (f ()) := by
  by_cases h : c <;> simp [check, h]

theorem check_bind_eq_ok {c : Prop} [Decidable c] {e : ε} {β : Type} {f : Unit → Except ε β}
    {b : β} : (check c e >>= f) = .ok b ↔ c ∧ f () = .ok b := by
  by_cases h : c <;> simp [check, h]

/-! ### Duplicate rejection -/

section Duplicates

variable [DecidableEq α]

/-- The first element of the list that is in `seen` or occurs before itself. -/
def duplicate? : List α → List α → Option α
  | _, [] => none
  | seen, x :: xs => if x ∈ seen then some x else duplicate? (x :: seen) xs

theorem duplicate?_eq_none {seen xs : List α} :
    duplicate? seen xs = none ↔ xs.Nodup ∧ ∀ x ∈ xs, x ∉ seen := by
  induction xs generalizing seen with
  | nil => simp [duplicate?]
  | cons x xs ih =>
    by_cases hx : x ∈ seen
    · simp [duplicate?, hx]
    · rw [duplicate?, if_neg hx, ih, List.nodup_cons]
      constructor
      · rintro ⟨hnd, hfresh⟩
        refine ⟨⟨fun hmem => hfresh x hmem List.mem_cons_self, hnd⟩, ?_⟩
        intro y hy
        rcases List.mem_cons.mp hy with rfl | hy
        · exact hx
        · exact fun hys => hfresh y hy (List.mem_cons_of_mem _ hys)
      · rintro ⟨⟨hnotin, hnd⟩, hfresh⟩
        refine ⟨hnd, fun y hy => ?_⟩
        rintro (_ | ⟨_, hys⟩)
        · exact hnotin hy
        · exact hfresh y (List.mem_cons_of_mem _ hy) hys

/-- `for x in xs: if x in seen: raise err(x); seen.add(x)`. -/
def rejectDuplicates (xs : List α) (err : α → ε) : Except ε Unit :=
  match duplicate? [] xs with
  | none => .ok ()
  | some x => .error (err x)

theorem rejectDuplicates_of_nodup {xs : List α} (h : xs.Nodup) (err : α → ε) :
    rejectDuplicates xs err = .ok () := by
  have hnone : duplicate? [] xs = none := duplicate?_eq_none.mpr ⟨h, fun _ _ => List.not_mem_nil⟩
  rw [rejectDuplicates, hnone]

@[simp] theorem rejectDuplicates_eq_ok {xs : List α} {err : α → ε} {u : Unit} :
    rejectDuplicates xs err = .ok u ↔ xs.Nodup := by
  constructor
  · intro h
    unfold rejectDuplicates at h
    cases hd : duplicate? [] xs with
    | none => exact (duplicate?_eq_none.mp hd).1
    | some x =>
      rw [hd] at h
      cases h
  · intro h
    exact rejectDuplicates_of_nodup h err

@[simp] theorem returns_rejectDuplicates_bind {xs : List α} {err : α → ε} {β : Type}
    {f : Unit → Except ε β} :
    Returns (rejectDuplicates xs err >>= f) ↔ xs.Nodup ∧ Returns (f ()) := by
  constructor
  · intro h
    obtain ⟨u, hu, hf⟩ := returns_bind.mp h
    exact ⟨rejectDuplicates_eq_ok.mp hu, hf⟩
  · rintro ⟨hnd, hf⟩
    rw [rejectDuplicates_of_nodup hnd]
    exact hf

theorem rejectDuplicates_bind_eq_ok {xs : List α} {err : α → ε} {β : Type}
    {f : Unit → Except ε β} {b : β} :
    (rejectDuplicates xs err >>= f) = .ok b ↔ xs.Nodup ∧ f () = .ok b := by
  constructor
  · intro h
    obtain ⟨u, hu, hf⟩ := bind_eq_ok.mp h
    exact ⟨rejectDuplicates_eq_ok.mp hu, hf⟩
  · rintro ⟨hnd, hf⟩
    rw [rejectDuplicates_of_nodup hnd]
    exact hf

end Duplicates

/-! ### Validated records -/

/-- Run the checks of a constructor and keep what they establish. -/
def certify {P : Prop} : (checks : Except ε Unit) → (checks = .ok () → P) → Except ε (PLift P)
  | .ok (), h => .ok ⟨h rfl⟩
  | .error e, _ => .error e

theorem certify_map_eq_ok {P : Prop} {checks : Except ε Unit} {h : checks = .ok () → P}
    {β : Type} {f : PLift P → β} {b : β} :
    (f <$> certify checks h) = .ok b ↔ checks = .ok () ∧ ∃ p, f ⟨p⟩ = b := by
  cases checks with
  | ok u =>
    constructor
    · intro hf
      change Except.ok (f ⟨h rfl⟩) = _ at hf
      exact ⟨rfl, h rfl, Except.ok.inj hf⟩
    · rintro ⟨-, p, hf⟩
      exact congrArg Except.ok hf
  | error e =>
    refine iff_of_false (fun hf => ?_) fun hf => by cases hf.1
    change Except.error e = _ at hf
    cases hf

/-! ### Postconditions -/

/-- The weakest precondition of a computation: it ends with a value in `V` or an error in `E`. -/
def Ends (E : ε → Prop) (V : α → Prop) : Except ε α → Prop
  | .ok a => V a
  | .error e => E e

@[simp] theorem ends_ok {E : ε → Prop} {V : α → Prop} {a : α} :
    Ends E V (.ok a : Except ε α) ↔ V a := Iff.rfl

@[simp] theorem ends_error {E : ε → Prop} {V : α → Prop} {e : ε} :
    Ends E V (.error e : Except ε α) ↔ E e := Iff.rfl

/-- The rule of sequences. -/
@[simp] theorem ends_bind {E : ε → Prop} {V : β → Prop} {x : Except ε α} {f : α → Except ε β} :
    Ends E V (x >>= f) ↔ Ends E (fun a => Ends E V (f a)) x := by
  cases x <;> rfl

@[simp] theorem ends_map {E : ε → Prop} {V : β → Prop} {x : Except ε α} {f : α → β} :
    Ends E V (f <$> x) ↔ Ends E (fun a => V (f a)) x := by
  cases x <;> rfl

@[simp] theorem ends_check {E : ε → Prop} {c : Prop} [Decidable c] {e : ε} {V : Unit → Prop} :
    Ends E V (check c e) ↔ (c → V ()) ∧ (¬ c → E e) := by
  by_cases h : c
  · rw [check_pos h]
    simp [h]
  · rw [check_neg h]
    simp [h]

/-- The rule of consequence. -/
theorem Ends.mono {E E' : ε → Prop} {V V' : α → Prop} {x : Except ε α} (h : Ends E V x)
    (hE : ∀ e, E e → E' e) (hV : ∀ a, x = .ok a → V a → V' a) : Ends E' V' x := by
  cases x with
  | ok a => exact hV a rfl h
  | error e => exact hE e h

/-- A computation whose errors are all in `E` ends well when its values do. -/
theorem ends_iff_of_errors {E : ε → Prop} {V : α → Prop} {x : Except ε α}
    (h : Ends E (fun _ => True) x) : Ends E V x ↔ ∀ a, x = .ok a → V a := by
  cases x with
  | ok a => simp
  | error e => simpa using h

/-- A step whose errors are all in `E` leaves what follows it to end well. -/
theorem ends_bind_of_errors {E : ε → Prop} {V : β → Prop} {x : Except ε α} {f : α → Except ε β}
    (h : Ends E (fun _ => True) x) :
    Ends E V (x >>= f) ↔ ∀ a, x = .ok a → Ends E V (f a) :=
  ends_bind.trans (ends_iff_of_errors h)

/-- A sequence ends well exactly when its first step does, and what follows every value of it. -/
theorem ends_bind_and {E : ε → Prop} {V : β → Prop} {x : Except ε α} {f : α → Except ε β} :
    Ends E V (x >>= f) ↔ Ends E (fun _ => True) x ∧ ∀ a, x = .ok a → Ends E V (f a) := by
  cases x <;> simp

/-- A step whose errors are all outside `E` has to return. -/
theorem ends_bind_of_disjoint {E F : ε → Prop} {V : β → Prop} {x : Except ε α}
    {f : α → Except ε β} (h : Ends F (fun _ => True) x) (hF : ∀ e, F e → ¬ E e) :
    Ends E V (x >>= f) ↔ ∃ a, x = .ok a ∧ Ends E V (f a) := by
  cases x with
  | ok a => simp
  | error e => simpa using hF e h

/-- The rule of traversals. -/
theorem ends_mapM {E : ε → Prop} {f : α → Except ε β} {xs : List α}
    (h : ∀ x ∈ xs, Ends E (fun _ => True) (f x)) : Ends E (fun _ => True) (xs.mapM f) := by
  induction xs with
  | nil => exact trivial
  | cons x xs ih =>
    rw [List.mapM_cons, ends_bind]
    refine (h x List.mem_cons_self).mono (fun _ he => he) fun y _ _ => ?_
    rw [ends_bind]
    exact (ih fun z hz => h z (List.mem_cons_of_mem _ hz)).mono (fun _ he => he)
      fun _ _ _ => trivial

/-- A traversal ends well exactly when each step does that is reached. -/
theorem ends_mapM_iff {E : ε → Prop} {f : α → Except ε β} {xs : List α} :
    Ends E (fun _ => True) (xs.mapM f) ↔ ∀ before x after, xs = before ++ x :: after →
      (∀ y ∈ before, Returns (f y)) → Ends E (fun _ => True) (f x) := by
  induction xs with
  | nil => simp
  | cons x xs ih =>
    rw [List.mapM_cons, ends_bind_and]
    constructor
    · rintro ⟨hx, hrest⟩ before y after hsplit hbefore
      cases before with
      | nil =>
        obtain ⟨rfl, rfl⟩ := List.cons.inj hsplit
        exact hx
      | cons z before =>
        obtain ⟨rfl, htail⟩ := List.cons.inj hsplit
        obtain ⟨a, ha⟩ := hbefore x List.mem_cons_self
        refine ih.mp ?_ before y after htail fun w hw => hbefore w (List.mem_cons_of_mem _ hw)
        exact (ends_bind_and.mp (hrest a ha)).1
    · intro h
      refine ⟨h [] x xs rfl fun _ hy => absurd hy List.not_mem_nil, fun a ha => ?_⟩
      refine ends_bind_and.mpr ⟨ih.mpr fun before y after hsplit hbefore => ?_, fun _ _ => trivial⟩
      refine h (x :: before) y after (by rw [hsplit, List.cons_append]) fun w hw => ?_
      rcases List.mem_cons.mp hw with rfl | hw
      · exact ⟨a, ha⟩
      · exact hbefore w hw

/-- The rule of loops that carry a value. -/
theorem ends_foldlM {E : ε → Prop} {f : β → α → Except ε β} {xs : List α} {b : β}
    (h : ∀ b, ∀ x ∈ xs, Ends E (fun _ => True) (f b x)) :
    Ends E (fun _ => True) (xs.foldlM f b) := by
  induction xs generalizing b with
  | nil => exact trivial
  | cons x xs ih =>
    rw [List.foldlM_cons, ends_bind]
    exact (h b x List.mem_cons_self).mono (fun _ he => he) fun _ _ _ =>
      ih fun b z hz => h b z (List.mem_cons_of_mem _ hz)

/-- What every round of a loop keeps, the loop keeps. -/
theorem foldlM_kept {P : β → Prop} {f : β → α → Except ε β} {xs : List α} {b b' : β}
    (h : ∀ b b', ∀ x ∈ xs, f b x = .ok b' → P b → P b') (hloop : xs.foldlM f b = .ok b')
    (hb : P b) : P b' := by
  induction xs generalizing b with
  | nil =>
    obtain rfl := Except.ok.inj hloop
    exact hb
  | cons x xs ih =>
    rw [List.foldlM_cons] at hloop
    obtain ⟨next, hnext, hloop⟩ := bind_eq_ok.mp hloop
    exact ih (fun b b' y hy => h b b' y (List.mem_cons_of_mem _ hy)) hloop
      (h b next x List.mem_cons_self hnext hb)

/-! ### Evaluation -/

/-- A computation that yields the value it is evaluated to. -/
theorem eq_ok_of_toOption {α : Type} {x : Except ε α} {a : α} (h : x.toOption = some a) :
    x = .ok a := by
  cases x with
  | error e => cases h
  | ok b => rw [Option.some.inj h]

/-- A computation that yields a value, as a decidable fact. -/
theorem exists_of_toOption {α β : Type} {x : Except ε α} {f : α → Option β}
    (h : (x.toOption.bind f).isSome = true) : ∃ a b, x = .ok a ∧ f a = some b := by
  cases x with
  | error e => cases h
  | ok a =>
    obtain ⟨b, hb⟩ := Option.isSome_iff_exists.mp h
    exact ⟨a, b, rfl, hb⟩

end ScarcityRouter.Lib
