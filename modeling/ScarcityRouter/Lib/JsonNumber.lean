import Mathlib.Algebra.Group.Int.Defs
import Mathlib.Algebra.Group.Nat.Defs
import Mathlib.Data.List.TakeWhile
import Mathlib.Data.Nat.Notation
import Mathlib.Data.Int.Notation

namespace ScarcityRouter.Lib

/-!
# JSON numbers

Number literals and the numbers they stand for.  Nothing here names the router.

* `NumberLiteral` — the parts the JSON grammar tells apart, with their well-formedness.
* `scanNumber` — the longest literal at the head of a text.
* `scanNumber_text` — **a literal is scanned back when no continuation of it follows.**
* `Double`, `FloatFormat` — IEEE doubles, and how a platform writes and reads them.
* `integerLiteral`, `integerOf` — integers in decimal.
-/

/-! ### Literals -/

/-- The exponent of a literal: `e` or `E`, an optional sign, digits. -/
structure ExponentLiteral where
  marker : Char
  sign : Option Char
  digits : List Char
  marker_ok : marker = 'e' ∨ marker = 'E'
  sign_ok : ∀ c ∈ sign, c = '+' ∨ c = '-'
  digits_ne : digits ≠ []
  digits_ok : ∀ c ∈ digits, c.isDigit = true
  deriving DecidableEq

/-- A number literal: an optional minus, an integer part without leading zeros, and optionally
    fraction digits and an exponent. -/
structure NumberLiteral where
  negative : Bool
  integer : List Char
  fraction : List Char
  exponent : Option ExponentLiteral
  integer_ne : integer ≠ []
  integer_ok : ∀ c ∈ integer, c.isDigit = true
  no_leading_zero : integer.head? = some '0' → integer = ['0']
  fraction_ok : ∀ c ∈ fraction, c.isDigit = true
  deriving DecidableEq

/-- A literal with a fraction or an exponent denotes a float. -/
def NumberLiteral.isFloat (literal : NumberLiteral) : Bool :=
  !literal.fraction.isEmpty || literal.exponent.isSome

def ExponentLiteral.text (exponent : ExponentLiteral) : List Char :=
  exponent.marker :: (exponent.sign.toList ++ exponent.digits)

def fractionText (fraction : List Char) : List Char :=
  if fraction = [] then [] else '.' :: fraction

def exponentText : Option ExponentLiteral → List Char
  | none => []
  | some exponent => exponent.text

def NumberLiteral.text (literal : NumberLiteral) : List Char :=
  (if literal.negative then ['-'] else []) ++
    (literal.integer ++ (fractionText literal.fraction ++ exponentText literal.exponent))

/-! ### Scanning -/

/-- The digits at the head of a text, and the rest. -/
def spanDigits (cs : List Char) : List Char × List Char :=
  (cs.takeWhile (·.isDigit), cs.dropWhile (·.isDigit))

/-- The integer part: a single zero, or digits that do not start with one. -/
def scanInteger : List Char → Option (List Char × List Char)
  | [] => none
  | c :: rest =>
    if c = '0' then some (['0'], rest)
    else if c.isDigit then some (spanDigits (c :: rest))
    else none

/-- The fraction digits, if a point and a digit follow. -/
def scanFraction (cs : List Char) : List Char × List Char :=
  match cs with
  | '.' :: rest => if (spanDigits rest).1 = [] then ([], cs) else spanDigits rest
  | _ => ([], cs)

/-- The optional sign of an exponent. -/
def scanSign : List Char → Option Char × List Char
  | '+' :: rest => (some '+', rest)
  | '-' :: rest => (some '-', rest)
  | rest => (none, rest)

private theorem spanDigits_fst (cs : List Char) : ∀ c ∈ (spanDigits cs).1, c.isDigit = true :=
  fun _ hc => (List.mem_takeWhile_imp hc :)

private theorem scanSign_ok (cs : List Char) : ∀ c ∈ (scanSign cs).1, c = '+' ∨ c = '-' := by
  unfold scanSign
  split <;> simp

/-- The exponent, if it is complete. -/
def scanExponent (cs : List Char) : Option ExponentLiteral × List Char :=
  match cs with
  | [] => (none, [])
  | marker :: rest =>
    if hmarker : marker = 'e' ∨ marker = 'E' then
      let signed := scanSign rest
      let digits := spanDigits signed.2
      if hdigits : digits.1 = [] then (none, cs)
      else (some ⟨marker, signed.1, digits.1, hmarker, scanSign_ok rest, hdigits,
        spanDigits_fst signed.2⟩, digits.2)
    else (none, cs)

private theorem scanFraction_ok (cs : List Char) :
    ∀ c ∈ (scanFraction cs).1, c.isDigit = true := by
  unfold scanFraction
  split
  · split
    · simp
    · exact spanDigits_fst _
  · simp

private theorem scanInteger_ok {cs integer rest : List Char}
    (h : scanInteger cs = some (integer, rest)) : integer ≠ [] ∧
      (∀ c ∈ integer, c.isDigit = true) ∧ (integer.head? = some '0' → integer = ['0']) := by
  unfold scanInteger at h
  split at h
  · cases h
  · rename_i c cs
    split_ifs at h with hzero hdigit
    · cases h
      simp
    · have hspan : (spanDigits (c :: cs)).1 = c :: (spanDigits cs).1 := by
        simp [spanDigits, hdigit]
      obtain rfl : (spanDigits (c :: cs)).1 = integer := congrArg Prod.fst (Option.some.inj h)
      refine ⟨by simp [hspan], spanDigits_fst _, fun hhead => ?_⟩
      rw [hspan, List.head?_cons] at hhead
      exact absurd (Option.some.inj hhead) hzero

/-- The longest number literal at the head of a text, and the rest. -/
def scanNumber (cs : List Char) : Option (NumberLiteral × List Char) :=
  let negative := cs.head? = some '-'
  let unsigned := if negative then cs.tail else cs
  match h : scanInteger unsigned with
  | none => none
  | some (integer, rest) =>
    let fraction := scanFraction rest
    let exponent := scanExponent fraction.2
    some (⟨negative, integer, fraction.1, exponent.1, (scanInteger_ok h).1, (scanInteger_ok h).2.1,
      (scanInteger_ok h).2.2, scanFraction_ok rest⟩, exponent.2)

/-! ### Literals are scanned back -/

/-- No literal goes on with the text. -/
def endsNumber (rest : List Char) : Prop :=
  ∀ c ∈ rest.head?, c.isDigit = false ∧ c ≠ '.' ∧ c ≠ 'e' ∧ c ≠ 'E'

/-- Digits are scanned up to the first character that is none. -/
private theorem spanDigits_append {digits rest : List Char} (h : ∀ c ∈ digits, c.isDigit = true)
    (hstop : ∀ c ∈ rest.head?, c.isDigit = false) :
    spanDigits (digits ++ rest) = (digits, rest) := by
  have hrest : rest.takeWhile (·.isDigit) = [] ∧ rest.dropWhile (·.isDigit) = rest := by
    cases rest with
    | nil => exact ⟨rfl, rfl⟩
    | cons c rest => simp [hstop c rfl]
  unfold spanDigits
  rw [List.takeWhile_append_of_pos h, List.dropWhile_append_of_pos h, hrest.1, hrest.2,
    List.append_nil]

private theorem scanInteger_append {integer rest : List Char} (hne : integer ≠ [])
    (hdigits : ∀ c ∈ integer, c.isDigit = true)
    (hzero : integer.head? = some '0' → integer = ['0'])
    (hstop : ∀ c ∈ rest.head?, c.isDigit = false) :
    scanInteger (integer ++ rest) = some (integer, rest) := by
  cases integer with
  | nil => exact absurd rfl hne
  | cons c cs =>
    by_cases hc : c = '0'
    · subst hc
      obtain rfl : cs = [] := (List.cons.inj (hzero rfl)).2
      rfl
    · rw [List.cons_append, scanInteger, if_neg hc, if_pos (hdigits c List.mem_cons_self),
        ← List.cons_append, spanDigits_append hdigits hstop]

private theorem scanFraction_append {fraction rest : List Char}
    (hdigits : ∀ c ∈ fraction, c.isDigit = true)
    (hstop : ∀ c ∈ rest.head?, c.isDigit = false ∧ c ≠ '.') :
    scanFraction (fractionText fraction ++ rest) = (fraction, rest) := by
  unfold fractionText
  split
  · rename_i hnil
    subst hnil
    unfold scanFraction
    split
    · rename_i heq
      exact absurd rfl (hstop '.' (by rw [List.nil_append] at heq; rw [heq]; rfl)).2
    · rfl
  · rename_i hne
    have hspan := spanDigits_append hdigits fun c hc => (hstop c hc).1
    unfold scanFraction
    simp only [List.cons_append, hspan]
    exact if_neg hne

private theorem scanSign_append {sign : Option Char} {rest : List Char}
    (hsign : ∀ c ∈ sign, c = '+' ∨ c = '-') (hdigit : ∃ c cs, rest = c :: cs ∧ c.isDigit = true) :
    scanSign (sign.toList ++ rest) = (sign, rest) := by
  cases sign with
  | none =>
    obtain ⟨c, cs, rfl, hc⟩ := hdigit
    unfold scanSign
    simp only [Option.toList_none, List.nil_append]
    split
    · rename_i heq
      cases heq
      exact absurd hc (by decide)
    · rename_i heq
      cases heq
      exact absurd hc (by decide)
    · rfl
  | some c =>
    rcases hsign c rfl with rfl | rfl <;> rfl

private theorem scanExponent_append (exponent : Option ExponentLiteral) {rest : List Char}
    (hstop : endsNumber rest) :
    scanExponent (exponentText exponent ++ rest) = (exponent, rest) := by
  cases exponent with
  | none =>
    cases rest with
    | nil => rfl
    | cons c rest =>
      obtain ⟨-, -, he, hE⟩ := hstop c rfl
      simp only [exponentText, List.nil_append, scanExponent]
      rw [dif_neg (by simp [he, hE])]
  | some exponent =>
    obtain ⟨marker, sign, digits, hmarker, hsign, hne, hdigits⟩ := exponent
    have hspan := spanDigits_append hdigits fun c hc => (hstop c hc).1
    have hscan : scanSign (sign.toList ++ (digits ++ rest)) = (sign, digits ++ rest) := by
      refine scanSign_append hsign ?_
      cases digits with
      | nil => exact absurd rfl hne
      | cons c cs => exact ⟨c, cs ++ rest, rfl, hdigits c List.mem_cons_self⟩
    simp only [exponentText, ExponentLiteral.text, List.cons_append, List.append_assoc,
      scanExponent]
    rw [dif_pos hmarker]
    simp only [hscan, hspan]
    rw [dif_neg hne]

/-- What follows the fraction starts neither with a digit nor with a point. -/
private theorem head_exponentText (exponent : Option ExponentLiteral) {rest : List Char}
    (hstop : endsNumber rest) :
    ∀ c ∈ (exponentText exponent ++ rest).head?, c.isDigit = false ∧ c ≠ '.' := by
  cases exponent with
  | none => exact fun c hc => ⟨(hstop c hc).1, (hstop c hc).2.1⟩
  | some exponent =>
    rintro c hc
    obtain rfl : exponent.marker = c := Option.some.inj hc
    rcases exponent.marker_ok with h | h <;> rw [h] <;> decide

/-- What follows the integer part does not start with a digit. -/
private theorem head_fractionText (fraction : List Char) {rest : List Char}
    (hstop : ∀ c ∈ rest.head?, c.isDigit = false) :
    ∀ c ∈ (fractionText fraction ++ rest).head?, c.isDigit = false := by
  unfold fractionText
  split
  · exact hstop
  · rintro c hc
    obtain rfl : '.' = c := Option.some.inj hc
    decide

private theorem text_append (literal : NumberLiteral) (rest : List Char) :
    literal.text ++ rest = (if literal.negative then ['-'] else []) ++ (literal.integer ++
      (fractionText literal.fraction ++ (exponentText literal.exponent ++ rest))) := by
  simp [NumberLiteral.text]

/-- A minus is told from the first digit. -/
private theorem head_text (literal : NumberLiteral) (rest : List Char) :
    (literal.text ++ rest).head? = some '-' ↔ literal.negative = true := by
  rw [text_append]
  cases literal.negative with
  | true => simp
  | false =>
    obtain ⟨c, cs, hcs⟩ := List.exists_cons_of_ne_nil literal.integer_ne
    have hc := literal.integer_ok c (by rw [hcs]; exact List.mem_cons_self)
    simp only [Bool.false_eq_true, if_false, List.nil_append, hcs, List.cons_append,
      List.head?_cons, Option.some.injEq, iff_false]
    rintro rfl
    exact absurd hc (by decide)

/-- A literal starts with a minus or a digit. -/
theorem NumberLiteral.head (literal : NumberLiteral) :
    ∃ c cs, literal.text = c :: cs ∧ (c = '-' ∨ c.isDigit = true) := by
  unfold NumberLiteral.text
  cases literal.negative with
  | true => exact ⟨'-', _, rfl, .inl rfl⟩
  | false =>
    obtain ⟨c, cs, hcs⟩ := List.exists_cons_of_ne_nil literal.integer_ne
    refine ⟨c, cs ++ _, by rw [hcs]; rfl, .inr (literal.integer_ok c ?_)⟩
    rw [hcs]
    exact List.mem_cons_self

/-- What is left without the minus. -/
private theorem unsigned_text (literal : NumberLiteral) (rest : List Char) :
    (if (literal.text ++ rest).head? = some '-' then (literal.text ++ rest).tail
      else literal.text ++ rest) = literal.integer ++
      (fractionText literal.fraction ++ (exponentText literal.exponent ++ rest)) := by
  simp only [head_text]
  rw [text_append]
  split
  · rfl
  · rfl

/-- **A literal is scanned back** when no continuation of it follows. -/
theorem scanNumber_text (literal : NumberLiteral) {rest : List Char} (hstop : endsNumber rest) :
    scanNumber (literal.text ++ rest) = some (literal, rest) := by
  have hexponent := scanExponent_append literal.exponent hstop
  have hhead := head_exponentText literal.exponent hstop
  have hfraction := scanFraction_append literal.fraction_ok hhead
  have hinteger := scanInteger_append literal.integer_ne literal.integer_ok
    literal.no_leading_zero
    (head_fractionText literal.fraction fun c hc => (hhead c hc).1)
  unfold scanNumber
  simp only
  split
  · rename_i hnone
    rw [unsigned_text, hinteger] at hnone
    cases hnone
  · rename_i integer after hscan
    rw [unsigned_text, hinteger] at hscan
    cases hscan
    simp only [hfraction, hexponent, head_text, Bool.decide_eq_true]

/-! ### Integers -/

/-- Only zero has a decimal that starts with zero. -/
private theorem toDigits_head {n : ℕ} (h : (Nat.toDigits 10 n).head? = some '0') : n = 0 := by
  induction n using Nat.strong_induction_on with
  | _ n ih =>
    rw [Nat.toDigits_eq_if (by decide)] at h
    split at h
    · exact Nat.digitChar_eq_zero.mp (Option.some.inj h)
    · obtain ⟨c, cs, hcs⟩ := List.exists_cons_of_ne_nil (Nat.toDigits_ne_nil (b := 10) (n := n / 10))
      have hdiv := ih (n / 10) (by omega) (by rwa [hcs] at h ⊢)
      omega

/-- The decimal literal of an integer. -/
def integerLiteral (n : ℤ) : NumberLiteral where
  negative := n < 0
  integer := Nat.toDigits 10 n.natAbs
  fraction := []
  exponent := none
  integer_ne := Nat.toDigits_ne_nil
  integer_ok _ hc := Nat.isDigit_of_mem_toDigits (by decide) (by decide) hc
  no_leading_zero h := by
    rw [toDigits_head h]
    exact Nat.toDigits_zero 10
  fraction_ok _ hc := nomatch hc

/-- `int(text)`: the integer of a literal without fraction and exponent. -/
def NumberLiteral.toInt (literal : NumberLiteral) : ℤ :=
  let n := Nat.ofDigitChars 10 literal.integer 0
  if literal.negative then -n else n

/-- **An integer is its decimal literal.** -/
@[simp] theorem toInt_integerLiteral (n : ℤ) : (integerLiteral n).toInt = n := by
  simp only [NumberLiteral.toInt, integerLiteral, Nat.ofDigitChars_ten_toDigits,
    decide_eq_true_eq]
  split <;> omega

@[simp] theorem isFloat_integerLiteral (n : ℤ) : (integerLiteral n).isFloat = false := rfl

/-! ### Floats -/

/-- A finite IEEE double: `significand * 2 ^ (exponent - 1074)`, with its sign. -/
structure Double where
  negative : Bool
  significand : ℕ
  exponent : ℕ
  significand_lt : significand < 2 ^ 53
  exponent_le : exponent ≤ 2045
  normal : 2 ^ 52 ≤ significand ∨ exponent = 0
  deriving DecidableEq

/-- A Python `float`. -/
inductive PyFloat where
  | finite (x : Double)
  | infinite (negative : Bool)
  | nan
  deriving DecidableEq

/-- How a platform writes doubles and reads literals: `float.__repr__` and `float(text)`, which
    give every double back. -/
class FloatFormat where
  repr : Double → NumberLiteral
  parse : NumberLiteral → PyFloat
  repr_isFloat : ∀ x, (repr x).isFloat = true
  parse_repr : ∀ x, parse (repr x) = .finite x

/-- The double with a given significand and exponent. -/
def Double.of? (negative : Bool) (significand exponent : ℕ) : Option Double :=
  if h : significand < 2 ^ 53 ∧ exponent ≤ 2045 ∧ (2 ^ 52 ≤ significand ∨ exponent = 0) then
    some ⟨negative, significand, exponent, h.1, h.2.1, h.2.2⟩
  else none

theorem Double.of?_self (x : Double) :
    Double.of? x.negative x.significand x.exponent = some x :=
  dif_pos ⟨x.significand_lt, x.exponent_le, x.normal⟩

/-- The exponent digits of a natural number. -/
def exponentLiteral (n : ℕ) : ExponentLiteral where
  marker := 'e'
  sign := none
  digits := Nat.toDigits 10 n
  marker_ok := .inl rfl
  sign_ok _ hc := nomatch hc
  digits_ne := Nat.toDigits_ne_nil
  digits_ok _ hc := Nat.isDigit_of_mem_toDigits (by decide) (by decide) hc

/-- A double written by its significand and its exponent, both of base two. -/
def binaryLiteral (x : Double) : NumberLiteral :=
  { integerLiteral x.significand with
    negative := x.negative
    exponent := some (exponentLiteral x.exponent) }

/-- A format that writes a double by its parts, to evaluate texts without floats: on these every
    format is the same. -/
@[reducible]
def binaryFormat : FloatFormat where
  repr := binaryLiteral
  parse literal :=
    match literal.exponent with
    | none => .nan
    | some exponent =>
      match Double.of? literal.negative (Nat.ofDigitChars 10 literal.integer 0)
          (Nat.ofDigitChars 10 exponent.digits 0) with
      | some x => .finite x
      | none => .nan
  repr_isFloat _ := rfl
  parse_repr x := by
    simp only [binaryLiteral, exponentLiteral, integerLiteral, Int.natAbs_natCast,
      Nat.ofDigitChars_ten_toDigits, Double.of?_self]

end ScarcityRouter.Lib
