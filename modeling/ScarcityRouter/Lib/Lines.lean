import ScarcityRouter.Lib.Separators

namespace ScarcityRouter.Lib

/-!
# Lines of a list

A list is cut after every occurrence of a terminator.  Nothing here names the router.

* `cutLine stop xs` — the first line, with its terminator, and what follows it.
* `lines stop xs` — all the lines; the last one may be unterminated.
* `flatten_lines`, `exists_lines_eq` — **the lines make up the list**, and what they look like.
* `cutLine_append`, `lines_terminated` — the lines of a list whose beginning is known.
-/

variable {α : Type*} [DecidableEq α] {stop : α} {xs : List α}

/-- The first line, with its terminator if it has one, and what follows it. -/
def cutLine (stop : α) (xs : List α) : List α × List α :=
  if stop ∈ xs then ((cutFirst stop xs).1 ++ [stop], (cutFirst stop xs).2) else (xs, [])

/-- The lines of a list. -/
def lines (stop : α) : List α → List (List α)
  | [] => []
  | x :: xs =>
    if x = stop then [x] :: lines stop xs
    else
      match lines stop xs with
      | [] => [[x]]
      | line :: rest => (x :: line) :: rest

/-! ### One line -/

theorem cutLine_of_notMem (h : stop ∉ xs) : cutLine stop xs = (xs, []) := if_neg h

theorem cutLine_terminated (h : stop ∉ xs) (ys : List α) :
    cutLine stop (xs ++ stop :: ys) = (xs ++ [stop], ys) := by
  unfold cutLine
  rw [if_pos (List.mem_append_right _ List.mem_cons_self), cutFirst_append h]

/-- The cut loses nothing. -/
theorem cutLine_eq (stop : α) (xs : List α) : (cutLine stop xs).1 ++ (cutLine stop xs).2 = xs := by
  by_cases h : stop ∈ xs
  · obtain ⟨body, rest, rfl, hbody⟩ := List.eq_append_cons_of_mem h
    simp [cutLine_terminated hbody]
  · simp [cutLine_of_notMem h]

theorem cutLine_ne_nil (h : xs ≠ []) : (cutLine stop xs).1 ≠ [] := by
  by_cases hmem : stop ∈ xs
  · obtain ⟨body, rest, rfl, hbody⟩ := List.eq_append_cons_of_mem hmem
    simp [cutLine_terminated hbody]
  · rwa [cutLine_of_notMem hmem]

/-- What follows the first line is shorter. -/
theorem length_cutLine_lt (h : xs ≠ []) : (cutLine stop xs).2.length < xs.length := by
  have hlength := congrArg List.length (cutLine_eq stop xs)
  rw [List.length_append] at hlength
  have hline := List.length_pos_of_ne_nil (@cutLine_ne_nil _ _ stop _ h)
  omega

/-- An unterminated beginning belongs to the first line. -/
theorem cutLine_append (h : stop ∉ xs) (ys : List α) :
    cutLine stop (xs ++ ys) = (xs ++ (cutLine stop ys).1, (cutLine stop ys).2) := by
  by_cases hmem : stop ∈ ys
  · obtain ⟨body, rest, rfl, hbody⟩ := List.eq_append_cons_of_mem hmem
    have hfront : stop ∉ xs ++ body := fun hin => (List.mem_append.mp hin).elim h hbody
    rw [← List.append_assoc, cutLine_terminated hfront, cutLine_terminated hbody,
      List.append_assoc]
  · have hall : stop ∉ xs ++ ys := fun hin => (List.mem_append.mp hin).elim h hmem
    rw [cutLine_of_notMem hall, cutLine_of_notMem hmem]

/-! ### All lines -/

theorem lines_terminated (h : stop ∉ xs) (ys : List α) :
    lines stop (xs ++ stop :: ys) = (xs ++ [stop]) :: lines stop ys := by
  induction xs with
  | nil => exact if_pos rfl
  | cons x xs ih =>
    obtain ⟨hx, hxs⟩ := not_or.mp (mt List.mem_cons.mpr h)
    simp only [List.cons_append, lines, if_neg (Ne.symm hx), ih hxs]

theorem lines_of_notMem (h : stop ∉ xs) (hne : xs ≠ []) : lines stop xs = [xs] := by
  induction xs with
  | nil => exact absurd rfl hne
  | cons x xs ih =>
    obtain ⟨hx, hxs⟩ := not_or.mp (mt List.mem_cons.mpr h)
    cases xs with
    | nil => simp [lines, Ne.symm hx]
    | cons y ys => rw [lines, if_neg (Ne.symm hx), ih hxs (List.cons_ne_nil y ys)]

/-- The first line, and the lines of what follows it. -/
theorem lines_eq (h : xs ≠ []) :
    lines stop xs = (cutLine stop xs).1 :: lines stop (cutLine stop xs).2 := by
  by_cases hmem : stop ∈ xs
  · obtain ⟨body, rest, rfl, hbody⟩ := List.eq_append_cons_of_mem hmem
    rw [lines_terminated hbody, cutLine_terminated hbody]
  · rw [lines_of_notMem hmem h, cutLine_of_notMem hmem]
    rfl

/-- **The lines make up the list.** -/
theorem flatten_lines (stop : α) (xs : List α) : (lines stop xs).flatten = xs := by
  induction xs with
  | nil => rfl
  | cons x xs ih =>
    unfold lines
    split_ifs
    · exact congrArg (x :: ·) ih
    · split
      · rename_i hnil
        rw [hnil] at ih
        exact congrArg (x :: ·) ih
      · rename_i line rest hcons
        rw [hcons] at ih
        exact congrArg (x :: ·) ih

/-- **Every line ends with the terminator and has no other**, except that the last line may be
    unterminated. -/
theorem exists_lines_eq (stop : α) (xs : List α) : ∃ full last, lines stop xs = full ++ last ∧
    (∀ line ∈ full, ∃ body, stop ∉ body ∧ line = body ++ [stop]) ∧
    (last = [] ∨ ∃ line, last = [line] ∧ line ≠ [] ∧ stop ∉ line) := by
  induction hlength : xs.length using Nat.strongRecOn generalizing xs with
  | _ n ih =>
    by_cases hmem : stop ∈ xs
    · obtain ⟨body, rest, rfl, hbody⟩ := List.eq_append_cons_of_mem hmem
      obtain ⟨full, last, hlines, hfull, hlast⟩ := ih rest.length
        (by rw [← hlength, List.length_append, List.length_cons]; omega) rest rfl
      refine ⟨(body ++ [stop]) :: full, last, ?_, ?_, hlast⟩
      · rw [lines_terminated hbody, hlines]
        rfl
      · exact List.forall_mem_cons.mpr ⟨⟨body, hbody, rfl⟩, hfull⟩
    · by_cases hne : xs = []
      · exact ⟨[], [], by rw [hne]; rfl, nofun, .inl rfl⟩
      · exact ⟨[], [xs], lines_of_notMem hmem hne, nofun, .inr ⟨xs, rfl, hne, hmem⟩⟩

end ScarcityRouter.Lib
