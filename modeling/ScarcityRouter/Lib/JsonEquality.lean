import ScarcityRouter.Lib.Json

namespace ScarcityRouter.Lib

/-!
# Equality of JSON values

* `Json.beq` — the comparison; `Json.beq_iff` — it decides equality, members in their order.
-/

namespace Json

mutual

/-- Compare two values; the members of an object are compared in their order. -/
def beq : Json → Json → Bool
  | .null, .null => true
  | .bool a, .bool b => a = b
  | .int a, .int b => a = b
  | .float a, .float b => a = b
  | .string a, .string b => a = b
  | .list as, .list bs => beqItems as bs
  | .object as, .object bs => beqMembers as bs
  | _, _ => false

def beqItems : List Json → List Json → Bool
  | [], [] => true
  | a :: as, b :: bs => a.beq b && beqItems as bs
  | _, _ => false

def beqMembers : List (Text × Json) → List (Text × Json) → Bool
  | [], [] => true
  | (k, a) :: as, (l, b) :: bs => k = l && a.beq b && beqMembers as bs
  | _, _ => false

end

theorem beqItems_iff {as : List Json} (h : ∀ a ∈ as, ∀ b, a.beq b = true ↔ a = b)
    (bs : List Json) : beqItems as bs = true ↔ as = bs := by
  induction as generalizing bs with
  | nil => cases bs <;> simp [beqItems]
  | cons a as ih =>
    obtain ⟨ha, has⟩ := List.forall_mem_cons.mp h
    cases bs with
    | nil => simp [beqItems]
    | cons b bs => rw [beqItems, Bool.and_eq_true, ha, ih has, List.cons.injEq]

theorem beqMembers_iff {as : List (Text × Json)}
    (h : ∀ a ∈ as, ∀ b, a.2.beq b = true ↔ a.2 = b) (bs : List (Text × Json)) :
    beqMembers as bs = true ↔ as = bs := by
  induction as generalizing bs with
  | nil => cases bs <;> simp [beqMembers]
  | cons a as ih =>
    obtain ⟨ha, has⟩ := List.forall_mem_cons.mp h
    obtain ⟨k, a⟩ := a
    cases bs with
    | nil => simp [beqMembers]
    | cons b bs =>
      obtain ⟨l, b⟩ := b
      rw [beqMembers, Bool.and_eq_true, Bool.and_eq_true, decide_eq_true_eq, ha, ih has,
        List.cons.injEq, Prod.mk.injEq]

/-- **The comparison decides equality.** -/
theorem beq_iff (a b : Json) : a.beq b = true ↔ a = b := by
  induction a using Json.induction generalizing b with
  | null => cases b <;> simp [beq]
  | bool x => cases b <;> simp [beq]
  | int x => cases b <;> simp [beq]
  | float x => cases b <;> simp [beq]
  | string x => cases b <;> simp [beq]
  | list items ih =>
    cases b with
    | list bs => rw [beq, beqItems_iff ih, list.injEq]
    | null | bool _ | int _ | float _ | string _ | object _ => simp [beq]
  | object members ih =>
    cases b with
    | object bs => rw [beq, beqMembers_iff ih, object.injEq]
    | null | bool _ | int _ | float _ | string _ | list _ => simp [beq]

instance : DecidableEq Json := fun a b => decidable_of_iff (a.beq b = true) (beq_iff a b)

end Json

end ScarcityRouter.Lib
