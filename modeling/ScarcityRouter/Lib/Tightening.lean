import Mathlib.Data.Option.Basic
import Mathlib.Tactic.Push

namespace ScarcityRouter.Lib

/-!
# Tightening an optional demand

A demand that may be absent, and a later one over it.  Nothing here names the router.

* `Follows r base later` — where both are given, the later demand is over the base in `r`; with
  `≤` this is a minimum that is not lowered, with `=` a choice that is not revised.
* `Clashes r base later` — both are given and it is not.
* `later.or base` is the tightened demand: `forall_mem_or_iff` says that **it asks for exactly what
  both ask for**, `Follows.assoc` and `Follows.unassoc` that tightening twice is tightening by the
  tightened.
* `Upholds r base later` — the later demand is given wherever the base is, and over it; the
  tightened demand upholds both.
-/

variable {α : Type*} {r : α → α → Prop} {a b c : Option α}

/-- Where both demands are given, the later one is over the base. -/
def Follows (r : α → α → Prop) (base later : Option α) : Prop :=
  ∀ e ∈ later, ∀ b ∈ base, r b e

/-- Both demands are given, and the later one is not over the base. -/
def Clashes (r : α → α → Prop) (base later : Option α) : Prop :=
  ∃ e ∈ later, ∃ b ∈ base, ¬ r b e

theorem not_follows_iff : ¬ Follows r a b ↔ Clashes r a b := by
  unfold Follows Clashes
  push Not
  rfl

theorem follows_none_left : Follows r none b := fun _ _ _ h => nomatch h

theorem follows_none_right : Follows r a none := fun _ h => nomatch h

theorem follows_self (hrefl : ∀ x, r x x) : Follows r a a := by
  intro e he b hb
  rw [Option.mem_unique hb he]
  exact hrefl e

/-- **The tightened demand asks for what both ask for**: whatever meets a demand meets those
    below it. -/
theorem forall_mem_or_iff {meets : α → Prop} (hmono : ∀ x y, r x y → meets y → meets x)
    (h : Follows r a b) :
    (∀ x ∈ b.or a, meets x) ↔ (∀ x ∈ a, meets x) ∧ ∀ x ∈ b, meets x := by
  cases b with
  | none => simp
  | some e =>
    simp only [Option.some_or, Option.mem_def, Option.some.injEq, forall_eq']
    refine ⟨fun he => ⟨fun x hx => ?_, he⟩, fun hboth => hboth.2⟩
    exact hmono x e (h e rfl x hx) he

namespace Follows

/-- Tightening by the same demand again changes nothing. -/
theorem again (hrefl : ∀ x, r x x) : Follows r (b.or a) b := by
  cases b with
  | none => exact follows_none_right
  | some e => exact follows_self hrefl

/-- A demand over the tightened one is over the later, -/
theorem of_or_left (h : Follows r (b.or a) c) : Follows r b c := by
  intro e he x hx
  obtain rfl := Option.mem_def.mp hx
  exact h e he x rfl

/-- and what they tighten to is over the base. -/
theorem assoc (htrans : ∀ {x y z}, r x y → r y z → r x z) (hab : Follows r a b)
    (h : Follows r (b.or a) c) : Follows r a (c.or b) := by
  cases c with
  | none => exact hab
  | some e =>
    cases b with
    | none => exact h
    | some y =>
      -- The later demand is over the middle one, and the middle one over the base.
      intro x hx z hz
      obtain rfl := Option.some.inj hx
      exact htrans (hab y rfl z hz) (h e rfl y rfl)

/-- A chain of demands tightens from the left when it tightens from the right. -/
theorem unassoc (hbc : Follows r b c) (h : Follows r a (c.or b)) : Follows r (b.or a) c := by
  cases b with
  | none => simpa using h
  | some y => exact hbc

end Follows

/-! ### Demands that are upheld -/

/-- Where the base is given, so is the later demand, and over it. -/
def Upholds (r : α → α → Prop) (base later : Option α) : Prop :=
  ∀ x ∈ base, ∃ y ∈ later, r x y

namespace Upholds

theorem refl (hrefl : ∀ x, r x x) : Upholds r a a := fun x hx => ⟨x, hx, hrefl x⟩

theorem trans (htrans : ∀ {x y z}, r x y → r y z → r x z) (hab : Upholds r a b)
    (hbc : Upholds r b c) : Upholds r a c := by
  intro x hx
  obtain ⟨y, hy, hxy⟩ := hab x hx
  obtain ⟨z, hz, hyz⟩ := hbc y hy
  exact ⟨z, hz, htrans hxy hyz⟩

/-- The tightened demand upholds the later one, -/
theorem or_later (hrefl : ∀ x, r x x) : Upholds r b (b.or a) :=
  fun x hx => ⟨x, Option.or_eq_some_iff.mpr (.inl hx), hrefl x⟩

/-- and the base. -/
theorem or_base (hrefl : ∀ x, r x x) (h : Follows r a b) : Upholds r a (b.or a) := by
  intro x hx
  cases b with
  | none => exact ⟨x, hx, hrefl x⟩
  | some e => exact ⟨e, rfl, h e rfl x hx⟩

/-- What upholds both upholds the tightened demand. -/
theorem or (hb : Upholds r b c) (ha : Upholds r a c) : Upholds r (b.or a) c := by
  intro x hx
  rcases Option.or_eq_some_iff.mp hx with hx | ⟨-, hx⟩
  · exact hb x hx
  · exact ha x hx

theorem none : Upholds r Option.none c := fun _ h => nomatch h

end Upholds

end ScarcityRouter.Lib
