import Mathlib.Data.PNat.Basic
import Mathlib.Data.String.Basic
import Mathlib.Order.Lattice
import ScarcityRouter.Lib.Checked
import ScarcityRouter.Lib.SortBy

namespace ScarcityRouter

open ScarcityRouter.Lib

/-!
# Identifiers, instants and contract errors

The vocabulary every contract module shares.

* `ContractError` — the exceptions the modelled functions raise, with their messages.
* `SafeId` — the strings the `_SAFE_ID_RE` pattern accepts, ordered as Python orders `str`.
* `Timestamp`, `Instant` — canonical UTC millisecond timestamps and timezone-aware instants;
  `canonicalInstant` is the rendering that connects the two.
* `orZero`, `positive?` — the idioms `x or 0` and `if x:` on optional positive integers.
-/

/-! ### Contract errors -/

/-- The exceptions of `errors.py` the modelled functions raise.  The route and selection
    classes both derive from `SelectionContractError`; `other` stands for an exception that is
    not a contract error (a failed `assert`, a missing dictionary key). -/
inductive ContractError where
  | selectionContractValidation (message : String)
  | routeContractValidation (message : String)
  | capacityValidation (message : String)
  | other (message : String)
  deriving DecidableEq, Repr

/-! ### Safe identifiers -/

/-- `[a-z0-9]`. -/
def isSafeIdHead (c : Char) : Bool := c.isLower || c.isDigit

/-- `[a-z0-9._:-]`. -/
def isSafeIdChar (c : Char) : Bool :=
  c.isLower || c.isDigit || c == '.' || c == '_' || c == ':' || c == '-'

/-- `re.match` of `^[a-z0-9][a-z0-9._:-]{0,63}$` on the characters of a string: the final `$`
    also matches before one trailing newline, so the pattern accepts that newline. -/
def matchesSafeId : List Char → Bool
  | [] => false
  | c :: cs =>
    let body := if cs.getLast? = some '\n' then cs.dropLast else cs
    isSafeIdHead c && body.all isSafeIdChar && body.length ≤ 63

/-- A string that `_v_safe_id` accepts. -/
def SafeId : Type := { s : String // matchesSafeId s.toList = true }

instance : DecidableEq SafeId := inferInstanceAs (DecidableEq (Subtype _))

/-- Identifiers compare as their strings do, by code points. -/
instance : LinearOrder SafeId :=
  inferInstanceAs (LinearOrder { s : String // matchesSafeId s.toList = true })

/-- The text of an identifier. -/
def SafeId.text (s : SafeId) : String := s.1

/-- An identifier literal, with its pattern check. -/
def SafeId.lit (s : String) (h : matchesSafeId s.toList = true := by exact Eq.refl true) : SafeId :=
  ⟨s, h⟩

theorem SafeId.text_injective : Function.Injective SafeId.text := Subtype.val_injective

theorem SafeId.text_ne_empty (s : SafeId) : s.text ≠ "" := by
  intro h
  have hmatch := s.2
  change s.1 = "" at h
  rw [h] at hmatch
  cases hmatch

/-- `repr` of an identifier: quotes, and the escape of a trailing newline. -/
def SafeId.repr (s : SafeId) : String :=
  "'" ++ s.text.replace "\n" "\\n" ++ "'"

/-- A character that the pattern accepts is no newline. -/
theorem newline_not_safe : isSafeIdChar '\n' = false := by decide

theorem isSafeIdChar_of_head {c : Char} (h : isSafeIdHead c = true) : isSafeIdChar c = true := by
  unfold isSafeIdHead at h
  unfold isSafeIdChar
  rw [Bool.or_eq_true] at h
  rcases h with h | h <;> simp [h]

/-- **A match without a newline**: at most 64 safe characters, and the first no separator. -/
theorem matchesSafeId_plain {cs : List Char} (hplain : '\n' ∉ cs) : matchesSafeId cs = true ↔
    (∃ c ∈ cs.head?, isSafeIdHead c = true) ∧ (∀ c ∈ cs, isSafeIdChar c = true) ∧
      cs.length ≤ 64 := by
  cases cs with
  | nil => simp [matchesSafeId]
  | cons c cs =>
    have hlast : cs.getLast? ≠ some '\n' := fun hlast =>
      hplain (List.mem_cons_of_mem _ (List.mem_of_getLast? hlast))
    simp only [matchesSafeId, hlast, if_false, Bool.and_eq_true, List.all_eq_true,
      decide_eq_true_eq, List.head?_cons, Option.mem_def, Option.some.injEq, exists_eq_left',
      List.mem_cons, forall_eq_or_imp, List.length_cons]
    constructor
    · rintro ⟨⟨hhead, hbody⟩, hlength⟩
      exact ⟨hhead, ⟨isSafeIdChar_of_head hhead, hbody⟩, by omega⟩
    · rintro ⟨hhead, ⟨-, hbody⟩, hlength⟩
      exact ⟨⟨hhead, hbody⟩, by omega⟩

/-- A text of safe characters has no newline. -/
theorem newline_notMem_of_safe {cs : List Char} (h : ∀ c ∈ cs, isSafeIdChar c = true) :
    '\n' ∉ cs := fun hmem =>
  Bool.false_ne_true (newline_not_safe.symm.trans (h _ hmem))

/-- The one newline that the pattern accepts is the last character. -/
theorem getLast?_of_newline {cs : List Char} (h : matchesSafeId cs = true) (hmem : '\n' ∈ cs) :
    cs.getLast? = some '\n' := by
  cases cs with
  | nil => cases hmem
  | cons c cs =>
    simp only [matchesSafeId, Bool.and_eq_true, List.all_eq_true] at h
    obtain ⟨⟨hhead, hbody⟩, -⟩ := h
    rcases List.mem_cons.mp hmem with rfl | hmem
    · cases hhead
    · have hne : cs ≠ [] := List.ne_nil_of_mem hmem
      rw [List.getLast?_cons_of_ne_nil hne]
      by_contra hlast
      rw [if_neg hlast] at hbody
      exact absurd (hbody _ hmem) (by rw [newline_not_safe]; exact Bool.false_ne_true)

/-- What stands before a text without a newline has none either. -/
theorem plain_front {front back : List Char} (hback : back ≠ []) (hplain : '\n' ∉ back)
    (h : matchesSafeId (front ++ back) = true) : '\n' ∉ front := by
  intro hmem
  have hlast := getLast?_of_newline h (List.mem_append_left _ hmem)
  rw [List.getLast?_append_of_ne_nil _ hback] at hlast
  exact hplain (List.mem_of_getLast? hlast)

/-- An identifier without a newline has safe characters only. -/
theorem SafeId.safe_of_plain {id : SafeId} (hplain : '\n' ∉ id.text.toList) :
    ∀ c ∈ id.text.toList, isSafeIdChar c = true :=
  ((matchesSafeId_plain hplain).mp id.2).2.1

/-! ### Instants -/

/-- A canonical UTC millisecond timestamp, as milliseconds from an epoch.  Canonical strings
    have a fixed width, so their lexicographic order is the order of the instants. -/
abbrev Timestamp := ℤ

/-- A timezone-aware `datetime`, as microseconds from the epoch of `Timestamp`. -/
abbrev Instant := ℤ

/-- `canonical_instant`: `isoformat(timespec="milliseconds")` truncates the microseconds. -/
def canonicalInstant (instant : Instant) : Timestamp := instant / 1000

/-- The instant a canonical timestamp denotes. -/
def Timestamp.instant (t : Timestamp) : Instant := t * 1000

/-! ### Positive numerals -/

-- A literal of `ℕ+`, or of the percentages, asks that its numeral is not zero.
instance neZero_1 : NeZero 1 := ⟨by decide⟩
instance neZero_2 : NeZero 2 := ⟨by decide⟩
instance neZero_4 : NeZero 4 := ⟨by decide⟩
instance neZero_7 : NeZero 7 := ⟨by decide⟩
instance neZero_60 : NeZero 60 := ⟨by decide⟩
instance neZero_64 : NeZero 64 := ⟨by decide⟩
instance neZero_101 : NeZero 101 := ⟨by decide⟩
instance neZero_300 : NeZero 300 := ⟨by decide⟩
instance neZero_900 : NeZero 900 := ⟨by decide⟩
instance neZero_1000 : NeZero 1000 := ⟨by decide⟩
instance neZero_1200 : NeZero 1200 := ⟨by decide⟩
instance neZero_1440 : NeZero 1440 := ⟨by decide⟩
instance neZero_2000 : NeZero 2000 := ⟨by decide⟩
instance neZero_10000 : NeZero 10000 := ⟨by decide⟩
instance neZero_18000 : NeZero 18000 := ⟨by decide⟩
instance neZero_28800 : NeZero 28800 := ⟨by decide⟩
instance neZero_131072 : NeZero 131072 := ⟨by decide⟩
instance neZero_604800 : NeZero 604800 := ⟨by decide⟩
instance neZero_2097152 : NeZero 2097152 := ⟨by decide⟩
instance neZero_2592000 : NeZero 2592000 := ⟨by decide⟩
instance neZero_16777216 : NeZero 16777216 := ⟨by decide⟩

/-! ### Optional positive integers -/

/-- `x or 0`. -/
def orZero : Option ℕ+ → ℕ
  | none => 0
  | some n => n

/-- The optional integer that `if x:` stores: absent when zero. -/
def positive? (n : ℕ) : Option ℕ+ := if h : 0 < n then some ⟨n, h⟩ else none

@[simp] theorem orZero_none : orZero none = 0 := rfl

@[simp] theorem orZero_some (n : ℕ+) : orZero (some n) = n := rfl

@[simp] theorem positive?_orZero (x : Option ℕ+) : positive? (orZero x) = x := by
  cases x with
  | none => rfl
  | some n => exact dif_pos n.pos

@[simp] theorem orZero_positive? (n : ℕ) : orZero (positive? n) = n := by
  unfold positive?
  split
  · rfl
  · simp only [orZero_none]
    omega

theorem orZero_injective : Function.Injective orZero := fun x y h => by
  rw [← positive?_orZero x, h, positive?_orZero]

end ScarcityRouter
