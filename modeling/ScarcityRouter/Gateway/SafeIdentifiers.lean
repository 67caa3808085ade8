import ScarcityRouter.ControlPlane.ConfigRecords
import ScarcityRouter.Gateway.PinnedReference
import ScarcityRouter.Worker.Canonical

namespace ScarcityRouter

open ScarcityRouter.Lib
open ConfigDocument (ConfigRaised routeError)

/-!
# The grammar of identifiers

`_SAFE_ID_RE` states a grammar, and the validators apply it with `re.match`, whose `$` also matches
before a final newline.

* `InGrammar` — the grammar, from one end of the text to the other.
* `IsControl` — the characters that would break a line of a log.
* `resourceVSafeId`, `selectionVSafeId`, `routingVSafeId` — `_v_safe_id` of each contract module.
* `matchesSafeId_iff` — **a match is in the grammar, or is followed by one newline**.
* `safeIdentifiers_inGrammar_iff` — an accepted identifier is in the grammar exactly if no newline
  ends it.
-/

/-! ### The grammar -/

/-- `\n`. -/
def newlinePoint : CodePoint := codePoint '\n'

/-- `[a-z0-9][a-z0-9._:-]{0,63}`. -/
def CharsInGrammar (chars : List Char) : Prop :=
  ∃ c cs, chars = c :: cs ∧ isSafeIdHead c = true ∧ (∀ x ∈ cs, isSafeIdChar x = true) ∧
    cs.length ≤ 63

/-- A text in the grammar. -/
def InGrammar (t : Text) : Prop := ∃ chars, t = chars.map codePoint ∧ CharsInGrammar chars

/-- A control character, or a line or paragraph separator. -/
def IsControl (c : CodePoint) : Prop :=
  c.val < 0x20 ∨ (0x7F ≤ c.val ∧ c.val < 0xA0) ∨ c.val = 0x2028 ∨ c.val = 0x2029

/-- `_v_safe_id` of `resource_state.py`. -/
def resourceVSafeId (value : Json) (field : String) : Except Raised SafeId :=
  capacityError (vSafeId value field)

/-- `_v_safe_id` of `selection_types.py`. -/
def selectionVSafeId (value : Json) (field : String) : Except Raised SafeId :=
  selectionError (vSafeId value field)

/-- `_v_safe_id` of `routing_core.py`. -/
def routingVSafeId (value : Json) (field : String) : Except ConfigRaised SafeId :=
  routeError (vSafeId value field)

/-- The identifiers of a reference. -/
def PinnedTarget.identifiers (pin : PinnedTarget) : List SafeId :=
  [pin.resourceId, pin.model.provider, pin.model.model, pin.model.variant] ++
    pin.reasoningEffort.toList ++ pin.decisionId.toList

/-! ### What is accepted -/

theorem CharsInGrammar.safe {chars : List Char} (h : CharsInGrammar chars) :
    ∀ c ∈ chars, isSafeIdChar c = true := by
  obtain ⟨c, cs, rfl, hhead, hbody, -⟩ := h
  exact List.forall_mem_cons.mpr ⟨isSafeIdChar_of_head hhead, hbody⟩

/-- **A match is in the grammar**, or is an identifier of the grammar with one newline behind it. -/
theorem matchesSafeId_iff {chars : List Char} : matchesSafeId chars = true ↔
    CharsInGrammar chars ∨ ∃ body, chars = body ++ ['\n'] ∧ CharsInGrammar body := by
  constructor
  · intro h
    by_cases hplain : '\n' ∈ chars
    · obtain ⟨body, rfl⟩ := List.getLast?_eq_some_iff.mp (getLast?_of_newline h hplain)
      refine .inr ⟨body, rfl, ?_⟩
      cases body with
      | nil => cases h
      | cons c cs =>
        simp only [List.cons_append, matchesSafeId, List.getLast?_concat, List.dropLast_concat,
          if_true, Bool.and_eq_true, List.all_eq_true, decide_eq_true_eq] at h
        exact ⟨c, cs, rfl, h.1.1, h.1.2, h.2⟩
    · obtain ⟨⟨c, hhead, hsafe⟩, hbody, hlength⟩ := (matchesSafeId_plain hplain).mp h
      cases chars with
      | nil => cases hhead
      | cons c' cs =>
        obtain rfl := Option.some.inj hhead
        exact .inl ⟨_, cs, rfl, hsafe, fun x hx => hbody x (List.mem_cons_of_mem _ hx),
          Nat.le_of_succ_le_succ hlength⟩
  · rintro (h | ⟨body, rfl, c, cs, rfl, hhead, hbody, hlength⟩)
    · have hplain := newline_notMem_of_safe h.safe
      refine (matchesSafeId_plain hplain).mpr ⟨?_, h.safe, ?_⟩
      · obtain ⟨c, cs, rfl, hhead, -⟩ := h
        exact ⟨c, rfl, hhead⟩
      · obtain ⟨c, cs, rfl, -, -, hlength⟩ := h
        exact Nat.succ_le_succ hlength
    · simp only [List.cons_append, matchesSafeId, List.getLast?_concat, List.dropLast_concat,
        if_true, Bool.and_eq_true, List.all_eq_true, decide_eq_true_eq]
      exact ⟨⟨hhead, hbody⟩, hlength⟩

private theorem isLower_range {c : Char} (h : c.isLower = true) :
    97 ≤ c.toNat ∧ c.toNat ≤ 122 := by
  change (decide (c.val ≥ 97) && decide (c.val ≤ 122)) = true at h
  rw [Bool.and_eq_true, decide_eq_true_eq, decide_eq_true_eq] at h
  exact h

/-- A safe character is no control character. -/
theorem not_isControl_of_safe {c : Char} (h : isSafeIdChar c = true) :
    ¬ IsControl (codePoint c) := by
  have hrange : 0x2D ≤ c.toNat ∧ c.toNat ≤ 0x7A := by
    simp only [isSafeIdChar, Bool.or_eq_true, beq_iff_eq, Char.isDigit,
      Bool.and_eq_true, decide_eq_true_eq, UInt32.le_iff_toNat_le] at h
    rcases h with ((((hlower | hdigit) | rfl) | rfl) | rfl) | rfl
    · have hlower := isLower_range hlower
      omega
    · change 48 ≤ c.toNat ∧ c.toNat ≤ 57 at hdigit
      omega
    all_goals decide
  unfold IsControl
  rw [codePoint_val]
  omega

/-- The newline is one. -/
theorem isControl_newline : IsControl newlinePoint := .inl (by decide)

section Identifiers

variable (id : SafeId)

/-- An identifier is in the grammar, or its text ends with the one newline it has. -/
theorem SafeId.inGrammar_or :
    (CharsInGrammar id.text.toList ∧ newlinePoint ∉ id.toText) ∨
      (¬ InGrammar id.toText ∧ id.toText.getLast? = some newlinePoint) := by
  have hmem : newlinePoint ∈ id.toText ↔ '\n' ∈ id.text.toList := by
    show codePoint '\n' ∈ id.text.toList.map codePoint ↔ _
    exact List.mem_map_of_injective codePoint_injective
  rcases matchesSafeId_iff.mp id.2 with h | ⟨body, htext, hbody⟩
  · exact .inl ⟨h, fun hin => newline_notMem_of_safe h.safe (hmem.mp hin)⟩
  · have hlast : id.text.toList = body ++ ['\n'] := htext
    refine .inr ⟨?_, ?_⟩
    · rintro ⟨chars, hchars, hgrammar⟩
      obtain rfl : id.text.toList = chars := List.map_injective_iff.mpr codePoint_injective hchars
      exact newline_notMem_of_safe hgrammar.safe (by rw [hlast]; simp)
    · show (id.text.toList.map codePoint).getLast? = _
      rw [hlast]
      simp [newlinePoint]

/-- **An identifier is in the grammar exactly if no newline ends it.** -/
theorem SafeId.inGrammar_iff : InGrammar id.toText ↔ id.toText.getLast? ≠ some newlinePoint := by
  rcases id.inGrammar_or with ⟨hgrammar, hplain⟩ | ⟨hno, hlast⟩
  · refine ⟨fun _ hlast => hplain (List.mem_of_getLast? hlast), fun _ => ⟨_, rfl, hgrammar⟩⟩
  · exact ⟨fun h => absurd h hno, fun h => absurd hlast h⟩

/-- **It has no control character exactly if no newline ends it.** -/
theorem SafeId.not_isControl_iff : (∀ c ∈ id.toText, ¬ IsControl c) ↔
    id.toText.getLast? ≠ some newlinePoint := by
  constructor
  · intro h hlast
    exact h _ (List.mem_of_getLast? hlast) isControl_newline
  · intro h c hc
    obtain ⟨chars, htext, hgrammar⟩ := id.inGrammar_iff.mpr h
    rw [htext] at hc
    obtain ⟨x, hx, rfl⟩ := List.mem_map.mp hc
    exact not_isControl_of_safe (hgrammar.safe x hx)

end Identifiers

/-- **An accepted identifier is in the grammar exactly if no newline ends it**, for the validator of
    every contract module; and whatever accepts it, a document, a reference or a message, it holds a
    control character exactly if a newline ends it. -/
theorem safeIdentifiers_inGrammar_iff (value : Json) (field : String) (id : SafeId)
    (model : Text) (pin : PinnedTarget) :
    (vSafeId value field = .ok id ∨ resourceVSafeId value field = .ok id ∨
          selectionVSafeId value field = .ok id ∨ routingVSafeId value field = .ok id →
        value = id.json ∧ (InGrammar id.toText ↔ id.toText.getLast? ≠ some newlinePoint)) ∧
      ((∀ c ∈ id.toText, ¬ IsControl c) ↔ id.toText.getLast? ≠ some newlinePoint) ∧
      (parsePinnedReference model = .ok pin →
        ((∀ id ∈ pin.identifiers, ∀ c ∈ id.toText, ¬ IsControl c) ↔
          ∀ id ∈ pin.identifiers, id.toText.getLast? ≠ some newlinePoint)) := by
  refine ⟨fun h => ⟨?_, id.inGrammar_iff⟩, id.not_isControl_iff,
    fun _ => forall₂_congr fun id _ => id.not_isControl_iff⟩
  rcases h with h | h | h | h
  · exact vSafeId_eq_ok h
  · exact vSafeId_eq_ok (mapError_eq_ok.mp h)
  · exact vSafeId_eq_ok (mapError_eq_ok.mp h)
  · exact vSafeId_eq_ok (mapError_eq_ok.mp h)

/-- **A newline is accepted** at the end of an identifier, by the validator and in a reference. -/
theorem newline_accepted :
    ¬ (∀ (value : Json) (field : String) (id : SafeId), vSafeId value field = .ok id →
        InGrammar id.toText) ∧
      ¬ ∀ (model : Text) (pin : PinnedTarget), parsePinnedReference model = .ok pin →
        ∀ id ∈ pin.identifiers, ∀ c ∈ id.toText, ¬ IsControl c := by
  constructor
  · intro h
    have hgrammar := h (SafeId.lit "a\n").json "worker_id" (.lit "a\n") rfl
    exact (SafeId.inGrammar_iff _).mp hgrammar (by decide)
  · intro h
    have hpin : parsePinnedReference (Text.ofString "sr-pin:a\n/p/m/v") =
      .ok { resourceId := .lit "a\n", model := ⟨.lit "p", .lit "m", .lit "v"⟩ } := by decide
    exact h _ _ hpin (.lit "a\n") (by simp [PinnedTarget.identifiers]) newlinePoint (by decide)
      isControl_newline

end ScarcityRouter
