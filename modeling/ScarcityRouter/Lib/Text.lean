import Mathlib.Algebra.GroupWithZero.Nat
import Mathlib.Data.Fin.Basic
import Mathlib.Data.List.Basic
import Mathlib.Data.Nat.Notation

namespace ScarcityRouter.Lib

/-!
# Texts and their JSON escapes

Python strings, and the two directions of a JSON string body.  Nothing here names the router.

* `Text` — a sequence of code points, in which surrogates are code points of their own.
* `escape` — the ASCII escape of a code point; beyond the basic plane it is a surrogate pair.
* `scanString` — the code units of a string body, up to its closing quote.
* `joinSurrogates` — the pairs among the code units, joined.
* `scanString_escape` — **the scan of an escaped text gives back its code units.**
* `joinSurrogates_codeUnits` — **joining them gives back the text, unless it holds a surrogate
  pair already.**
-/

/-! ### Texts -/

/-- A code point. -/
abbrev CodePoint := Fin 0x110000

instance neZero_codePoints : NeZero 0x110000 := ⟨by decide⟩

instance : LawfulBEq CodePoint := inferInstance

/-- A Python `str`. -/
abbrev Text := List CodePoint

instance : LawfulBEq Text := inferInstance

/-- The code point of a character. -/
def codePoint (c : Char) : CodePoint :=
  ⟨c.toNat, by rcases c.valid with h | h <;> simp only [Char.toNat] at * <;> omega⟩

@[simp] theorem codePoint_val (c : Char) : (codePoint c).val = c.toNat := rfl

theorem codePoint_injective : Function.Injective codePoint := fun _ _ h =>
  Char.toNat_inj.mp (Fin.mk.inj h)

/-- The text of a string literal. -/
def Text.ofString (s : String) : Text := s.toList.map codePoint

instance : Coe String Text := ⟨Text.ofString⟩

theorem Text.ofString_injective : Function.Injective Text.ofString := fun _ _ h =>
  String.toList_inj.mp (List.map_injective_iff.mpr codePoint_injective h)

@[simp] theorem Text.ofString_inj {a b : String} : Text.ofString a = Text.ofString b ↔ a = b :=
  Text.ofString_injective.eq_iff

/-! ### Surrogates -/

/-- A high surrogate. -/
def isHigh (c : CodePoint) : Bool := 0xD800 ≤ c.val && c.val ≤ 0xDBFF

/-- A low surrogate. -/
def isLow (c : CodePoint) : Bool := 0xDC00 ≤ c.val && c.val ≤ 0xDFFF

/-- A text that has an encoding in UTF-8: it holds no surrogate. -/
def Text.encodable (text : Text) : Bool := text.all fun c => !isHigh c && !isLow c

/-- A part of an encodable text is encodable. -/
theorem Text.encodable_of_subset {s t : Text} (h : Text.encodable t = true) (hsub : s ⊆ t) :
    Text.encodable s = true :=
  List.all_eq_true.mpr fun c hc => List.all_eq_true.mp h c (hsub hc)

/-- `\d800 + ((n - 0x10000) >> 10)`: the high surrogate of a code point beyond the basic plane. -/
def highOf (c : CodePoint) : CodePoint := Fin.ofNat _ (0xD800 + (c.val - 0x10000) / 0x400)

/-- The low surrogate of a code point beyond the basic plane. -/
def lowOf (c : CodePoint) : CodePoint := Fin.ofNat _ (0xDC00 + (c.val - 0x10000) % 0x400)

/-- The code point of a surrogate pair. -/
def joinPair (high low : CodePoint) : CodePoint :=
  Fin.ofNat _ (0x10000 + (high.val - 0xD800) * 0x400 + (low.val - 0xDC00))

/-- Join every high surrogate with a low one that follows it. -/
def joinSurrogates : Text → Text
  | high :: low :: rest =>
    if isHigh high && isLow low then joinPair high low :: joinSurrogates rest
    else high :: joinSurrogates (low :: rest)
  | short => short

/-- The code units of a code point. -/
def codeUnits (c : CodePoint) : Text := if c.val < 0x10000 then [c] else [highOf c, lowOf c]

/-- The text holds no surrogate pair: no high surrogate has a low one after it. -/
def unpaired : Text → Bool
  | high :: low :: rest => !(isHigh high && isLow low) && unpaired (low :: rest)
  | _ => true

/-! ### Escapes -/

/-- The letter of a one-letter escape. -/
def shortEscape (c : CodePoint) : Option Char :=
  match c.val with
  | 0x22 => some '"'
  | 0x5C => some '\\'
  | 0x08 => some 'b'
  | 0x0C => some 'f'
  | 0x0A => some 'n'
  | 0x0D => some 'r'
  | 0x09 => some 't'
  | _ => none

/-- The escape of a code unit: four lowercase hexadecimal digits. -/
def escapeUnit (c : CodePoint) : List Char :=
  ['\\', 'u', Nat.digitChar (c.val / 4096 % 16), Nat.digitChar (c.val / 256 % 16),
    Nat.digitChar (c.val / 16 % 16), Nat.digitChar (c.val % 16)]

/-- The ASCII escape of a code point. -/
def escape (c : CodePoint) : List Char :=
  match shortEscape c with
  | some letter => ['\\', letter]
  | none =>
    if 0x20 ≤ c.val ∧ c.val ≤ 0x7E then [Char.ofNat c.val]
    else (codeUnits c).flatMap escapeUnit

/-- The code point of a one-letter escape. -/
def unescape : Char → Option CodePoint
  | '"' => some 0x22
  | '\\' => some 0x5C
  | '/' => some 0x2F
  | 'b' => some 0x08
  | 'f' => some 0x0C
  | 'n' => some 0x0A
  | 'r' => some 0x0D
  | 't' => some 0x09
  | _ => none

/-- The value of a hexadecimal digit, in either case. -/
def hexDigit? (c : Char) : Option ℕ :=
  if c.isDigit then some (c.toNat - 48)
  else if 'a' ≤ c ∧ c ≤ 'f' then some (c.toNat - 87)
  else if 'A' ≤ c ∧ c ≤ 'F' then some (c.toNat - 55)
  else none

/-- The code unit of four hexadecimal digits. -/
def hexUnit? (a b c d : Char) : Option CodePoint := do
  let a ← hexDigit? a
  let b ← hexDigit? b
  let c ← hexDigit? c
  let d ← hexDigit? d
  some (Fin.ofNat _ (a * 4096 + b * 256 + c * 16 + d))

/-- The code units of a string body, up to its closing quote, and what follows it.  Control
    characters and unknown escapes are refused. -/
def scanString : List Char → Option (Text × List Char)
  | [] => none
  | c :: rest =>
    if c = '"' then some ([], rest)
    else if c = '\\' then
      match rest with
      | [] => none
      | 'u' :: h₁ :: h₂ :: h₃ :: h₄ :: rest => do
        let unit ← hexUnit? h₁ h₂ h₃ h₄
        let (units, rest) ← scanString rest
        some (unit :: units, rest)
      | letter :: rest => do
        let unit ← unescape letter
        let (units, rest) ← scanString rest
        some (unit :: units, rest)
    else if c.toNat < 0x20 then none
    else do
      let (units, rest) ← scanString rest
      some (codePoint c :: units, rest)

/-- Prepend code units to a scan. -/
def prepend (units : Text) (scan : Option (Text × List Char)) : Option (Text × List Char) :=
  scan.map fun result => (units ++ result.1, result.2)

/-! ### The round trip of a string body -/

private theorem hexDigit?_digitChar {n : ℕ} (h : n < 16) : hexDigit? (Nat.digitChar n) = some n := by
  revert n
  decide

/-- A code unit is its four hexadecimal digits. -/
private theorem hexUnit?_escapeUnit {c : CodePoint} (h : c.val < 0x10000) :
    hexUnit? (Nat.digitChar (c.val / 4096 % 16)) (Nat.digitChar (c.val / 256 % 16))
      (Nat.digitChar (c.val / 16 % 16)) (Nat.digitChar (c.val % 16)) = some c := by
  unfold hexUnit?
  rw [hexDigit?_digitChar (Nat.mod_lt _ (by decide)), hexDigit?_digitChar (Nat.mod_lt _ (by decide)),
    hexDigit?_digitChar (Nat.mod_lt _ (by decide)), hexDigit?_digitChar (Nat.mod_lt _ (by decide))]
  have hdigits : c.val / 4096 % 16 * 4096 + c.val / 256 % 16 * 256 + c.val / 16 % 16 * 16 +
      c.val % 16 = c.val := by omega
  simp only [Option.bind_eq_bind, Option.bind_some, hdigits, Option.some.injEq]
  exact Fin.ofNat_val_eq_self c

private theorem scanString_escapeUnit {c : CodePoint} {rest : List Char} (h : c.val < 0x10000) :
    scanString (escapeUnit c ++ rest) = prepend [c] (scanString rest) := by
  unfold escapeUnit
  simp only [List.cons_append, List.nil_append]
  rw [scanString, if_neg (by decide), if_pos rfl]
  simp only [hexUnit?_escapeUnit h, Option.bind_eq_bind, Option.bind_some]
  cases scanString rest <;> rfl

/-- The letters of the short escapes are read back. -/
private theorem scanString_shortEscape {c : CodePoint} {letter : Char} {rest : List Char}
    (h : shortEscape c = some letter) :
    scanString ('\\' :: letter :: rest) = prepend [c] (scanString rest) := by
  have hletter : letter ≠ 'u' ∧ unescape letter = some c := by
    unfold shortEscape at h
    split at h <;> cases h
    all_goals
      rename_i hval
      exact ⟨by decide, congrArg some (Fin.ext hval.symm)⟩
  rw [scanString, if_neg (by decide), if_pos rfl]
  · simp only [hletter.2, Option.bind_eq_bind, Option.bind_some]
    cases scanString rest <;> rfl
  · rintro _ _ _ _ _ hu -
    exact hletter.1 hu

private theorem toNat_ofNat_of_lt {n : ℕ} (h : n < 0x80) : (Char.ofNat n).toNat = n := by
  rw [Char.ofNat, dif_pos (.inl (by omega))]
  rfl

/-- A printable character stands for itself. -/
private theorem scanString_printable {c : CodePoint} {rest : List Char}
    (hshort : shortEscape c = none) (hlow : 0x20 ≤ c.val) (hhigh : c.val ≤ 0x7E) :
    scanString (Char.ofNat c.val :: rest) = prepend [c] (scanString rest) := by
  have hval : (Char.ofNat c.val).toNat = c.val := toNat_ofNat_of_lt (by omega)
  have hquote : Char.ofNat c.val ≠ '"' := by
    intro h
    rw [h] at hval
    unfold shortEscape at hshort
    rw [← hval] at hshort
    cases hshort
  have hbackslash : Char.ofNat c.val ≠ '\\' := by
    intro h
    rw [h] at hval
    unfold shortEscape at hshort
    rw [← hval] at hshort
    cases hshort
  have hpoint : codePoint (Char.ofNat c.val) = c := Fin.ext hval
  rw [scanString.eq_def]
  dsimp only
  rw [if_neg hquote, if_neg hbackslash, if_neg (by omega), hpoint]
  cases scanString rest <;> rfl

theorem prepend_append (units units' : Text) (scan : Option (Text × List Char)) :
    prepend (units ++ units') scan = prepend units (prepend units' scan) := by
  cases scan <;> simp [prepend]

private theorem highOf_lt (c : CodePoint) : (highOf c).val < 0x10000 := by
  have h := c.isLt
  simp only [highOf, Fin.val_ofNat]
  omega

private theorem lowOf_lt (c : CodePoint) : (lowOf c).val < 0x10000 := by
  have h := c.isLt
  simp only [lowOf, Fin.val_ofNat]
  omega

/-- **The scan of an escaped code point gives its code units.** -/
theorem scanString_escape (c : CodePoint) (rest : List Char) :
    scanString (escape c ++ rest) = prepend (codeUnits c) (scanString rest) := by
  unfold escape
  cases hshort : shortEscape c with
  | some letter =>
    have hbasic : codeUnits c = [c] := by
      refine if_pos ?_
      unfold shortEscape at hshort
      split at hshort <;> first | omega | cases hshort
    rw [hbasic]
    exact scanString_shortEscape hshort
  | none =>
    by_cases hprintable : 0x20 ≤ c.val ∧ c.val ≤ 0x7E
    · dsimp only
      rw [if_pos hprintable, codeUnits, if_pos (by omega)]
      exact scanString_printable hshort hprintable.1 hprintable.2
    · dsimp only
      rw [if_neg hprintable]
      unfold codeUnits
      split
      · rename_i hbasic
        simpa using @scanString_escapeUnit c rest hbasic
      · -- Beyond the basic plane, two code units are escaped one after the other.
        simp only [List.flatMap_cons, List.flatMap_nil, List.append_nil, List.append_assoc]
        rw [scanString_escapeUnit (highOf_lt c), scanString_escapeUnit (lowOf_lt c)]
        exact (prepend_append [highOf c] [lowOf c] _).symm

/-- The body of a string literal, without its quotes. -/
def escapes (text : Text) : List Char := text.flatMap escape

/-- An escape is ASCII. -/
theorem toNat_lt_of_mem_escape {c : CodePoint} {letter : Char} (h : letter ∈ escape c) :
    letter.toNat < 0x80 := by
  have hdigit : ∀ n : ℕ, (Nat.digitChar (n % 16)).toNat < 0x80 := by
    intro n
    have hall : ∀ k : Fin 16, (Nat.digitChar k).toNat < 0x80 := by decide
    exact hall ⟨n % 16, Nat.mod_lt _ (by omega)⟩
  unfold escape at h
  split at h
  · rename_i short hshort
    unfold shortEscape at hshort
    rcases List.mem_cons.mp h with rfl | h
    · decide
    · rw [List.mem_singleton.mp h]
      split at hshort <;> first | (obtain rfl := Option.some.inj hshort; decide) | cases hshort
  · split_ifs at h with hprintable
    · rw [List.mem_singleton.mp h, toNat_ofNat_of_lt (by omega)]
      omega
    · obtain ⟨unit, -, h⟩ := List.mem_flatMap.mp h
      simp only [escapeUnit, List.mem_cons, List.not_mem_nil, or_false] at h
      rcases h with rfl | rfl | rfl | rfl | rfl | rfl
      · decide
      · decide
      all_goals exact hdigit _

/-- An escaped text is ASCII. -/
theorem toNat_lt_of_mem_escapes {text : Text} {letter : Char} (h : letter ∈ escapes text) :
    letter.toNat < 0x80 := by
  obtain ⟨c, -, hletter⟩ := List.mem_flatMap.mp h
  exact toNat_lt_of_mem_escape hletter

/-- **The scan of an escaped text gives its code units.** -/
theorem scanString_escapes (text : Text) (rest : List Char) :
    scanString (escapes text ++ '"' :: rest) = some (text.flatMap codeUnits, rest) := by
  induction text with
  | nil =>
    rw [scanString.eq_def]
    rfl
  | cons c text ih =>
    unfold escapes at ih ⊢
    rw [List.flatMap_cons, List.append_assoc, scanString_escape, ih]
    rfl

/-! ### Joining surrogates -/

private theorem joinSurrogates_cons {c : CodePoint} (h : isHigh c = false) (text : Text) :
    joinSurrogates (c :: text) = c :: joinSurrogates text := by
  cases text with
  | nil => rfl
  | cons d text => simp [joinSurrogates, h]

/-- A code point beyond the basic plane is its surrogate pair. -/
private theorem joinPair_split {c : CodePoint} (h : ¬ c.val < 0x10000) :
    isHigh (highOf c) = true ∧ isLow (lowOf c) = true ∧ joinPair (highOf c) (lowOf c) = c := by
  have hlt := c.isLt
  have hhigh : (highOf c).val = 0xD800 + (c.val - 0x10000) / 0x400 := by
    simp only [highOf, Fin.val_ofNat]
    omega
  have hlow : (lowOf c).val = 0xDC00 + (c.val - 0x10000) % 0x400 := by
    simp only [lowOf, Fin.val_ofNat]
    omega
  refine ⟨?_, ?_, Fin.ext ?_⟩
  · simp only [isHigh, hhigh, Bool.and_eq_true, decide_eq_true_eq]
    omega
  · simp only [isLow, hlow, Bool.and_eq_true, decide_eq_true_eq]
    omega
  · simp only [joinPair, hhigh, hlow, Fin.val_ofNat]
    omega

/-- The first code unit of a text is a low surrogate only if its first code point is. -/
private theorem isLow_head_codeUnits {c unit : CodePoint} {units : Text}
    (h : codeUnits c = unit :: units) (hlow : isLow unit = true) : unit = c := by
  unfold codeUnits at h
  split at h
  · exact (List.cons.inj h).1.symm
  · rename_i hastral
    obtain ⟨rfl, -⟩ := List.cons.inj h
    have hhigh := (joinPair_split hastral).1
    simp only [isHigh, isLow, Bool.and_eq_true, decide_eq_true_eq] at hhigh hlow
    omega

/-- **Joining the code units gives back a text that holds no surrogate pair.** -/
theorem joinSurrogates_codeUnits {text : Text} (h : unpaired text = true) :
    joinSurrogates (text.flatMap codeUnits) = text := by
  induction text with
  | nil => rfl
  | cons c text ih =>
    have htail : unpaired text = true := by
      cases text with
      | nil => rfl
      | cons d text => simp only [unpaired, Bool.and_eq_true] at h; exact h.2
    rw [List.flatMap_cons]
    by_cases hbasic : c.val < 0x10000
    · rw [codeUnits, if_pos hbasic, List.singleton_append]
      cases hhigh : isHigh c with
      | false => rw [joinSurrogates_cons hhigh, ih htail]
      | true =>
        cases text with
        | nil => rfl
        | cons d text =>
          -- What follows a lone high surrogate does not start with a low one.
          have hd : isLow d = false := by simpa [unpaired, hhigh, htail] using h
          obtain ⟨unit, units, hunits⟩ : ∃ unit units, codeUnits d = unit :: units := by
            unfold codeUnits
            split <;> exact ⟨_, _, rfl⟩
          have hunit : isLow unit = false := by
            cases hlow : isLow unit with
            | false => rfl
            | true =>
              rw [isLow_head_codeUnits hunits hlow] at hlow
              exact absurd (hd.symm.trans hlow) (by decide)
          have ih := ih htail
          rw [List.flatMap_cons, hunits, List.cons_append] at ih ⊢
          rw [joinSurrogates, hunit, Bool.and_false, if_neg Bool.false_ne_true, ih]
    · obtain ⟨hhigh, hlow, hpair⟩ := joinPair_split hbasic
      rw [codeUnits, if_neg hbasic]
      simp only [List.cons_append, List.nil_append]
      rw [joinSurrogates, hhigh, hlow, Bool.and_self, if_pos rfl, hpair, ih htail]

end ScarcityRouter.Lib
