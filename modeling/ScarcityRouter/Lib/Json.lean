import Mathlib.Data.List.Lex
import Mathlib.Order.Fin.Basic
import ScarcityRouter.Lib.JsonNumber
import ScarcityRouter.Lib.SortBy
import ScarcityRouter.Lib.Text

namespace ScarcityRouter.Lib

/-!
# JSON documents

Decoded JSON values, and `json.dumps` and `json.loads` as the program calls them.  Nothing here
names the router.

* `Json`, `Json.canonical` — values, and their equality as Python values.
* `Json.hashable`, `Json.sameKey` — which values can be keys of a dictionary, and when two are one.
* `Json.text`, `Json.dumps` — ASCII text with sorted keys and without blanks.
* `parseValue`, `loads` — the strict parser, which refuses repeated keys and non-finite constants.
* `Dict` — an object as the program holds it, without repeated keys.
* `loads_dumps` — **a text that `dumps` writes is loaded as the value it was written from.**
-/

/-! ### Values -/

/-- A decoded JSON value.  The members of an object are in insertion order. -/
inductive Json where
  | null
  | bool (b : Bool)
  | int (n : ℤ)
  | float (x : PyFloat)
  | string (s : Text)
  | list (items : List Json)
  | object (members : List (Text × Json))

namespace Json

/-- Induction over the items of lists and the members of objects. -/
@[elab_as_elim]
theorem induction {motive : Json → Prop} (null : motive .null) (bool : ∀ b, motive (.bool b))
    (int : ∀ n, motive (.int n)) (float : ∀ x, motive (.float x)) (string : ∀ s, motive (.string s))
    (list : ∀ items, (∀ item ∈ items, motive item) → motive (.list items))
    (object : ∀ members, (∀ member ∈ members, motive member.2) → motive (.object members))
    (value : Json) : motive value :=
  Json.rec (motive_1 := motive) (motive_2 := fun items => ∀ item ∈ items, motive item)
    (motive_3 := fun members => ∀ member ∈ members, motive member.2)
    (motive_4 := fun member => motive member.2)
    null bool int float string list object (fun _ h => nomatch h)
    (fun _ _ hhead htail => List.forall_mem_cons.mpr ⟨hhead, htail⟩) (fun _ h => nomatch h)
    (fun _ _ hhead htail => List.forall_mem_cons.mpr ⟨hhead, htail⟩) (fun _ _ h => h) value

mutual

/-- The predicate holds of the value and of every value in it. -/
def all (p : Json → Bool) : Json → Bool
  | .list items => p (.list items) && allItems p items
  | .object members => p (.object members) && allMembers p members
  | value => p value

def allItems (p : Json → Bool) : List Json → Bool
  | [] => true
  | item :: items => item.all p && allItems p items

def allMembers (p : Json → Bool) : List (Text × Json) → Bool
  | [] => true
  | (_, value) :: members => value.all p && allMembers p members

end

mutual

/-- The value with the members of every object in key order: two values are equal as Python
    values when they have the same `canonical`. -/
def canonical : Json → Json
  | .list items => .list (canonicalItems items)
  | .object members => .object (sortBy Prod.fst (canonicalMembers members))
  | value => value

def canonicalItems : List Json → List Json
  | [] => []
  | item :: items => item.canonical :: canonicalItems items

def canonicalMembers : List (Text × Json) → List (Text × Json)
  | [] => []
  | (key, value) :: members => (key, value.canonical) :: canonicalMembers members

end

theorem allItems_eq (p : Json → Bool) (items : List Json) :
    allItems p items = items.all (·.all p) := by
  induction items with
  | nil => rfl
  | cons item items ih => rw [allItems, List.all_cons, ih]

theorem allMembers_eq (p : Json → Bool) (members : List (Text × Json)) :
    allMembers p members = members.all (·.2.all p) := by
  induction members with
  | nil => rfl
  | cons member members ih => rw [allMembers, List.all_cons, ih]

theorem all_list {p : Json → Bool} {items : List Json} :
    (Json.list items).all p = true ↔
      p (.list items) = true ∧ ∀ item ∈ items, item.all p = true := by
  rw [all, allItems_eq, Bool.and_eq_true, List.all_eq_true]

theorem all_object {p : Json → Bool} {members : List (Text × Json)} :
    (Json.object members).all p = true ↔
      p (.object members) = true ∧ ∀ member ∈ members, member.2.all p = true := by
  rw [all, allMembers_eq, Bool.and_eq_true, List.all_eq_true]

theorem canonicalItems_eq (items : List Json) : canonicalItems items = items.map canonical := by
  induction items with
  | nil => rfl
  | cons item items ih => rw [canonicalItems, List.map_cons, ih]

theorem canonicalMembers_eq (members : List (Text × Json)) :
    canonicalMembers members = members.map fun member => (member.1, member.2.canonical) := by
  induction members with
  | nil => rfl
  | cons member members ih => rw [canonicalMembers, List.map_cons, ih]

@[simp] theorem canonical_list (items : List Json) :
    (Json.list items).canonical = .list (items.map canonical) := by
  rw [canonical, canonicalItems_eq]

/-- Sorting by key commutes with a change of the values. -/
private theorem sortBy_mapValue {β : Type} (f : Json → β) (members : List (Text × Json)) :
    sortBy Prod.fst (members.map fun member => (member.1, f member.2)) =
      (sortBy Prod.fst members).map fun member => (member.1, f member.2) :=
  (map_sortBy (fun member : Text × Json => (member.1, f member.2)) (fun _ => rfl) members).symm

@[simp] theorem canonical_object (members : List (Text × Json)) :
    (Json.object members).canonical =
      .object ((sortBy Prod.fst members).map fun member => (member.1, member.2.canonical)) := by
  rw [canonical, canonicalMembers_eq, sortBy_mapValue]

def isNull : Json → Bool
  | .null => true
  | _ => false

/-- A value that Python can hash. -/
def hashable : Json → Bool
  | .list _ | .object _ => false
  | _ => true

/-- A number times `2 ^ 1074`, by which Python compares booleans, integers and floats. -/
def scaled? : Json → Option ℤ
  | .bool b => some (if b then 2 ^ 1074 else 0)
  | .int n => some (n * 2 ^ 1074)
  | .float (.finite x) =>
    some ((if x.negative then -1 else 1) * (x.significand * 2 ^ x.exponent : ℕ))
  | _ => none

/-- Two keys of a dictionary are equal. -/
def sameKey : Json → Json → Bool
  | .string a, .string b => a = b
  | .null, .null => true
  | .float (.infinite a), .float (.infinite b) => a = b
  | a, b =>
    match a.scaled?, b.scaled? with
    | some x, some y => x = y
    | _, _ => false

/-! ### Writing -/

/-- The default of `sys.set_int_max_str_digits`. -/
def maxStrDigits : ℕ := 4300

/-- What `json.dumps` writes without raising: finite floats, and integers within the limit. -/
def writable : Json → Bool
  | .int n => (Nat.toDigits 10 n.natAbs).length ≤ maxStrDigits
  | .float (.finite _) => true
  | .float _ => false
  | _ => true

/-- A string literal. -/
def quoted (s : Text) : List Char := '"' :: (escapes s ++ ['"'])

/-- Join with commas. -/
def commaJoin : List (List Char) → List Char
  | [] => []
  | [text] => text
  | text :: texts => text ++ ',' :: commaJoin texts

/-- One member of an object. -/
def memberText (member : Text × List Char) : List Char := quoted member.1 ++ ':' :: member.2

section Format

variable [FloatFormat]

mutual

/-- The text of a value: ASCII, keys sorted, no blanks. -/
def text : Json → List Char
  | .null => ['n', 'u', 'l', 'l']
  | .bool true => ['t', 'r', 'u', 'e']
  | .bool false => ['f', 'a', 'l', 's', 'e']
  | .int n => (integerLiteral n).text
  | .float (.finite x) => (FloatFormat.repr x).text
  | .float (.infinite negative) => (if negative then "-Infinity" else "Infinity").toList
  | .float .nan => "NaN".toList
  | .string s => quoted s
  | .list items => '[' :: (commaJoin (itemTexts items) ++ [']'])
  | .object members =>
    '{' :: (commaJoin ((sortBy Prod.fst (memberTexts members)).map memberText) ++ ['}'])

def itemTexts : List Json → List (List Char)
  | [] => []
  | item :: items => item.text :: itemTexts items

def memberTexts : List (Text × Json) → List (Text × List Char)
  | [] => []
  | (key, value) :: members => (key, value.text) :: memberTexts members

end

/-- `json.dumps(value, sort_keys=True, allow_nan=False, separators=(",", ":"))`; `none` stands for
    the `ValueError`. -/
def dumps (value : Json) : Option (List Char) :=
  if value.all writable then some value.text else none

theorem itemTexts_eq (items : List Json) : itemTexts items = items.map text := by
  induction items with
  | nil => rfl
  | cons item items ih => rw [itemTexts, List.map_cons, ih]

theorem memberTexts_eq (members : List (Text × Json)) :
    memberTexts members = members.map fun member => (member.1, member.2.text) := by
  induction members with
  | nil => rfl
  | cons member members ih => rw [memberTexts, List.map_cons, ih]

theorem text_list (items : List Json) :
    (Json.list items).text = '[' :: (commaJoin (items.map text) ++ [']']) := by
  rw [text, itemTexts_eq]

theorem text_object (members : List (Text × Json)) :
    (Json.object members).text = '{' :: (commaJoin ((sortBy Prod.fst members).map fun member =>
      memberText (member.1, member.2.text)) ++ ['}']) := by
  rw [text, memberTexts_eq, sortBy_mapValue, List.map_map]
  rfl

/-! ### Reading -/

/-- A JSON blank. -/
def isBlank (c : Char) : Bool := c = ' ' || c = '\t' || c = '\n' || c = '\r'

/-- Skip blanks. -/
def skipBlanks (cs : List Char) : List Char := cs.dropWhile isBlank

/-- A literal name at the head of a text. -/
def scanName (name : List Char) (value : Json) (cs : List Char) : Option (Json × List Char) :=
  if name.isPrefixOf cs then some (value, cs.drop name.length) else none

/-- A number at the head of a text: an integer beyond the digit limit is refused. -/
def scanNumeral (cs : List Char) : Option (Json × List Char) :=
  match scanNumber cs with
  | none => none
  | some (literal, rest) =>
    if literal.isFloat then some (.float (FloatFormat.parse literal), rest)
    else if literal.integer.length ≤ maxStrDigits then some (.int literal.toInt, rest)
    else none

mutual

/-- The value at the head of a text, which starts with no blank, and the rest.  Every list and
    object takes two units of fuel. -/
def parseValue : ℕ → List Char → Option (Json × List Char)
  | 0, _ => none
  | _ + 1, [] => none
  | fuel + 1, c :: rest =>
    if c = '"' then do
      let (units, rest) ← scanString rest
      some (.string (joinSurrogates units), rest)
    else if c = '{' then
      match skipBlanks rest with
      | '}' :: rest => some (.object [], rest)
      | rest => do
        let (members, rest) ← parseMembers fuel rest
        if (members.map Prod.fst).Nodup then some (.object members, rest) else none
    else if c = '[' then
      match skipBlanks rest with
      | ']' :: rest => some (.list [], rest)
      | rest => do
        let (items, rest) ← parseItems fuel rest
        some (.list items, rest)
    else if c = 'n' then scanName ['n', 'u', 'l', 'l'] .null (c :: rest)
    else if c = 't' then scanName ['t', 'r', 'u', 'e'] (.bool true) (c :: rest)
    else if c = 'f' then scanName ['f', 'a', 'l', 's', 'e'] (.bool false) (c :: rest)
    else scanNumeral (c :: rest)

/-- The items of a list up to its closing bracket. -/
def parseItems : ℕ → List Char → Option (List Json × List Char)
  | 0, _ => none
  | fuel + 1, cs => do
    let (item, rest) ← parseValue fuel cs
    match skipBlanks rest with
    | ']' :: rest => some ([item], rest)
    | ',' :: rest => do
      let (items, rest) ← parseItems fuel (skipBlanks rest)
      some (item :: items, rest)
    | _ => none

/-- The members of an object up to its closing brace. -/
def parseMembers : ℕ → List Char → Option (List (Text × Json) × List Char)
  | 0, _ => none
  | fuel + 1, cs =>
    match cs with
    | '"' :: rest => do
      let (units, rest) ← scanString rest
      match skipBlanks rest with
      | ':' :: rest => do
        let (value, rest) ← parseValue fuel (skipBlanks rest)
        match skipBlanks rest with
        | '}' :: rest => some ([(joinSurrogates units, value)], rest)
        | ',' :: rest => do
          let (members, rest) ← parseMembers fuel (skipBlanks rest)
          some ((joinSurrogates units, value) :: members, rest)
        | _ => none
      | _ => none
    | _ => none

end

/-- `json.loads(text, object_pairs_hook=_reject_duplicate_key, parse_constant=_reject_constant)`;
    `none` stands for the `ValueError`. -/
def loads (cs : List Char) : Option Json :=
  if cs.head? = some '\uFEFF' then none
  else
    match parseValue (2 * cs.length) (skipBlanks cs) with
    | none => none
    | some (value, rest) => if skipBlanks rest = [] then some value else none

end Format

/-! ### The round trip -/

/-- Strings and keys hold no surrogate pairs, which reading would join. -/
def plain : Json → Bool
  | .string s => unpaired s
  | .object members => members.all fun member => unpaired member.1
  | _ => true

/-- No key occurs twice. -/
def distinct : Json → Bool
  | .object members => (members.map Prod.fst).Nodup
  | _ => true

/-- A value that is read back as it was written. -/
def Portable (value : Json) : Prop :=
  value.all writable = true ∧ value.all plain = true ∧ value.all distinct = true

theorem Portable.list {items : List Json} (h : (Json.list items).Portable) :
    ∀ item ∈ items, item.Portable := fun item hitem =>
  ⟨(all_list.mp h.1).2 item hitem, (all_list.mp h.2.1).2 item hitem,
    (all_list.mp h.2.2).2 item hitem⟩

theorem Portable.object {members : List (Text × Json)} (h : (Json.object members).Portable) :
    ∀ member ∈ members, member.2.Portable := fun member hmember =>
  ⟨(all_object.mp h.1).2 member hmember, (all_object.mp h.2.1).2 member hmember,
    (all_object.mp h.2.2).2 member hmember⟩

theorem skipBlanks_of_head {c : Char} {cs : List Char} (h : isBlank c = false) :
    skipBlanks (c :: cs) = c :: cs :=
  List.dropWhile_cons_of_neg (by simp [h])

/-- The characters a value can start with. -/
private def startsValue (c : Char) : Prop :=
  c ∈ ['"', '{', '[', 'n', 't', 'f', '-', 'I', 'N'] ∨ c.isDigit = true

private theorem startsValue.ne {c d : Char} (h : startsValue c)
    (hd : d ∉ ['"', '{', '[', 'n', 't', 'f', '-', 'I', 'N'] ∧ d.isDigit = false) : c ≠ d := by
  rintro rfl
  rcases h with h | h
  · exact hd.1 h
  · exact Bool.false_ne_true (hd.2.symm.trans h)

private theorem startsValue.not_blank {c : Char} (h : startsValue c) : isBlank c = false := by
  simp only [isBlank, h.ne (d := ' ') (by decide), h.ne (d := '\t') (by decide),
    h.ne (d := '\n') (by decide), h.ne (d := '\r') (by decide), decide_false, Bool.or_self]

section Format

variable [FloatFormat]

/-- The first character of a value. -/
private theorem head_text (value : Json) : ∃ c cs, value.text = c :: cs ∧ startsValue c := by
  have hnumber : ∀ literal : NumberLiteral, ∃ c cs, literal.text = c :: cs ∧ startsValue c := by
    intro literal
    obtain ⟨c, cs, htext, rfl | hdigit⟩ := literal.head
    · exact ⟨_, cs, htext, .inl (by decide)⟩
    · exact ⟨c, cs, htext, .inr hdigit⟩
  cases value with
  | null => exact ⟨_, _, rfl, .inl (by decide)⟩
  | bool b => cases b <;> exact ⟨_, _, rfl, .inl (by decide)⟩
  | int n => exact hnumber (integerLiteral n)
  | float x =>
    cases x with
    | finite x => exact hnumber (FloatFormat.repr x)
    | infinite negative => cases negative <;> exact ⟨_, _, rfl, .inl (by decide)⟩
    | nan => exact ⟨_, _, rfl, .inl (by decide)⟩
  | string s => exact ⟨_, _, rfl, .inl (by decide)⟩
  | list items => exact ⟨_, _, rfl, .inl (by decide)⟩
  | object members => exact ⟨_, _, rfl, .inl (by decide)⟩

/-- A number is scanned back. -/
private theorem parseValue_number {literal : NumberLiteral} {rest : List Char} {fuel : ℕ}
    (hstop : endsNumber rest) :
    parseValue (fuel + 1) (literal.text ++ rest) =
      if literal.isFloat then some (.float (FloatFormat.parse literal), rest)
      else if literal.integer.length ≤ maxStrDigits then some (.int literal.toInt, rest)
      else none := by
  obtain ⟨c, cs, htext, hc⟩ := literal.head
  have hne : ∀ d : Char, d ≠ '-' → d.isDigit = false → c ≠ d := by
    rintro d hminus hdigit rfl
    rcases hc with rfl | hc
    · exact hminus rfl
    · exact Bool.false_ne_true (hdigit.symm.trans hc)
  have hscan : scanNumber (c :: (cs ++ rest)) = some (literal, rest) := by
    rw [← List.cons_append, ← htext]
    exact scanNumber_text literal hstop
  rw [htext, List.cons_append, parseValue, if_neg (hne _ (by decide) (by decide)),
    if_neg (hne _ (by decide) (by decide)), if_neg (hne _ (by decide) (by decide)),
    if_neg (hne _ (by decide) (by decide)), if_neg (hne _ (by decide) (by decide)),
    if_neg (hne _ (by decide) (by decide)), scanNumeral, hscan]

/-- The value is read back wherever it stands. -/
private def ReadBack (value : Json) : Prop :=
  ∀ fuel rest, 2 * value.text.length ≤ fuel → endsNumber rest →
    parseValue fuel (value.text ++ rest) = some (value.canonical, rest)

omit [FloatFormat] in
private theorem endsNumber_cons {c : Char} {rest : List Char}
    (h : c.isDigit = false ∧ c ≠ '.' ∧ c ≠ 'e' ∧ c ≠ 'E') : endsNumber (c :: rest) := by
  rintro d hd
  obtain rfl : c = d := Option.some.inj hd
  exact h

/-- **The loop over the items of a list.** -/
private theorem parseItems_text {item : Json} {items : List Json}
    (hitems : ∀ x ∈ item :: items, ReadBack x) {fuel : ℕ} {rest : List Char}
    (hfuel : 2 * (commaJoin ((item :: items).map text)).length + 1 ≤ fuel) :
    parseItems fuel (commaJoin ((item :: items).map text) ++ ']' :: rest) =
      some ((item :: items).map canonical, rest) := by
  induction items generalizing item fuel with
  | nil =>
    cases fuel with
    | zero => omega
    | succ fuel =>
      have hread := hitems item List.mem_cons_self fuel (']' :: rest)
        (by simpa [commaJoin] using hfuel) (endsNumber_cons (by decide))
      simp only [List.map_cons, List.map_nil, commaJoin, parseItems, hread, Option.bind_eq_bind,
        Option.bind_some, skipBlanks_of_head (c := ']') (by decide)]
  | cons next items ih =>
    cases fuel with
    | zero => omega
    | succ fuel =>
      have hlength : (commaJoin ((item :: next :: items).map text)).length =
          item.text.length + 1 + (commaJoin ((next :: items).map text)).length := by
        simp only [List.map_cons, commaJoin, List.length_append, List.length_cons]
        omega
      have hread := hitems item List.mem_cons_self fuel
        (',' :: (commaJoin ((next :: items).map text) ++ ']' :: rest)) (by omega)
        (endsNumber_cons (by decide))
      have hrest := @ih next (fun x hx => hitems x (List.mem_cons_of_mem _ hx)) fuel (by omega)
      -- The next item starts right after the comma.
      obtain ⟨c, cs, htext, hc⟩ := head_text next
      have hskip : skipBlanks (commaJoin ((next :: items).map text) ++ ']' :: rest) =
          commaJoin ((next :: items).map text) ++ ']' :: rest := by
        cases items with
        | nil => simpa [commaJoin, htext] using skipBlanks_of_head hc.not_blank
        | cons _ _ => simpa [commaJoin, htext] using skipBlanks_of_head hc.not_blank
      have hsplit : commaJoin ((item :: next :: items).map text) ++ ']' :: rest =
          item.text ++ ',' :: (commaJoin ((next :: items).map text) ++ ']' :: rest) := by
        simp [commaJoin]
      rw [hsplit, parseItems, hread]
      simp only [Option.bind_eq_bind, Option.bind_some, skipBlanks_of_head (c := ',') (by decide)]
      rw [hskip, hrest]
      rfl

/-- One member is read back, whatever follows its value. -/
private theorem parseMembers_member {member : Text × Json} (hkey : unpaired member.1 = true)
    (hvalue : ReadBack member.2) {fuel : ℕ} {after : List Char}
    (hfuel : 2 * member.2.text.length ≤ fuel) (hafter : endsNumber after) :
    parseMembers (fuel + 1) (memberText (member.1, member.2.text) ++ after) =
      (match skipBlanks after with
        | '}' :: rest => some ([(member.1, member.2.canonical)], rest)
        | ',' :: rest => do
          let (members, rest) ← parseMembers fuel (skipBlanks rest)
          some ((member.1, member.2.canonical) :: members, rest)
        | _ => none) := by
  obtain ⟨c, cs, htext, hc⟩ := head_text member.2
  have hskip : skipBlanks (member.2.text ++ after) = member.2.text ++ after := by
    rw [htext, List.cons_append]
    exact skipBlanks_of_head hc.not_blank
  simp only [memberText, quoted, List.cons_append, List.append_assoc, List.nil_append,
    parseMembers, scanString_escapes, Option.bind_eq_bind, Option.bind_some,
    joinSurrogates_codeUnits hkey, skipBlanks_of_head (c := ':') (by decide), hskip,
    hvalue fuel after hfuel hafter]

/-- **The loop over the members of an object.** -/
private theorem parseMembers_text {member : Text × Json} {members : List (Text × Json)}
    (hkeys : ∀ x ∈ member :: members, unpaired x.1 = true)
    (hvalues : ∀ x ∈ member :: members, ReadBack x.2) {fuel : ℕ} {rest : List Char}
    (hfuel : 2 * (commaJoin ((member :: members).map fun x =>
      memberText (x.1, x.2.text))).length + 1 ≤ fuel) :
    parseMembers fuel (commaJoin ((member :: members).map fun x =>
      memberText (x.1, x.2.text)) ++ '}' :: rest) =
      some ((member :: members).map fun x => (x.1, x.2.canonical), rest) := by
  have hvalueLength : ∀ x : Text × Json,
      x.2.text.length ≤ (memberText (x.1, x.2.text)).length := by
    intro x
    simp only [memberText, List.length_append, List.length_cons]
    omega
  induction members generalizing member fuel with
  | nil =>
    cases fuel with
    | zero => omega
    | succ fuel =>
      have hlength := hvalueLength member
      simp only [List.map_cons, List.map_nil, commaJoin] at hfuel ⊢
      rw [parseMembers_member (hkeys member List.mem_cons_self) (hvalues member List.mem_cons_self)
        (by omega) (endsNumber_cons (by decide)), skipBlanks_of_head (by decide)]
      rfl
  | cons next members ih =>
    cases fuel with
    | zero => omega
    | succ fuel =>
      have hlength : (commaJoin ((member :: next :: members).map fun x =>
          memberText (x.1, x.2.text))).length = (memberText (member.1, member.2.text)).length + 1 +
          (commaJoin ((next :: members).map fun x => memberText (x.1, x.2.text))).length := by
        simp only [List.map_cons, commaJoin, List.length_append, List.length_cons]
        omega
      have hvalue := hvalueLength member
      have hrest := @ih next (fun x hx => hkeys x (List.mem_cons_of_mem _ hx))
        (fun x hx => hvalues x (List.mem_cons_of_mem _ hx)) fuel (by omega)
      have hskip : skipBlanks (commaJoin ((next :: members).map fun x =>
          memberText (x.1, x.2.text)) ++ '}' :: rest) =
          commaJoin ((next :: members).map fun x => memberText (x.1, x.2.text)) ++ '}' :: rest := by
        -- The next member starts with a quote.
        cases members with
        | nil => exact skipBlanks_of_head (by decide)
        | cons _ _ => exact skipBlanks_of_head (by decide)
      have hsplit : commaJoin ((member :: next :: members).map fun x =>
          memberText (x.1, x.2.text)) ++ '}' :: rest = memberText (member.1, member.2.text) ++
          ',' :: (commaJoin ((next :: members).map fun x => memberText (x.1, x.2.text)) ++
            '}' :: rest) := by
        simp [commaJoin]
      rw [hsplit, parseMembers_member (hkeys member List.mem_cons_self)
        (hvalues member List.mem_cons_self) (by omega) (endsNumber_cons (by decide)),
        skipBlanks_of_head (by decide)]
      simp only [Option.bind_eq_bind]
      rw [hskip, hrest]
      rfl

/-- A text is not empty, so that there is fuel. -/
private theorem readBack_of_succ {value : Json}
    (h : ∀ fuel rest, 2 * value.text.length ≤ fuel + 1 → endsNumber rest →
      parseValue (fuel + 1) (value.text ++ rest) = some (value.canonical, rest)) :
    ReadBack value := by
  intro fuel rest hfuel hstop
  obtain ⟨c, cs, htext, -⟩ := head_text value
  cases fuel with
  | zero =>
    rw [htext, List.length_cons] at hfuel
    omega
  | succ fuel => exact h fuel rest hfuel hstop

omit [FloatFormat] in
/-- The joined items start with the first character of the first one. -/
private theorem head_commaJoin {text : List Char} (texts : List (List Char)) {c : Char}
    {cs : List Char} (h : text = c :: cs) : ∃ ds, commaJoin (text :: texts) = c :: ds := by
  cases texts with
  | nil => exact ⟨cs, h⟩
  | cons next texts =>
    refine ⟨cs ++ ',' :: commaJoin (next :: texts), ?_⟩
    rw [h]
    rfl

private theorem readBack_list {items : List Json} (hitems : ∀ x ∈ items, ReadBack x) :
    ReadBack (.list items) := by
  refine readBack_of_succ fun fuel rest hfuel _ => ?_
  rw [canonical_list]
  rw [text_list] at hfuel ⊢
  simp only [List.cons_append, List.append_assoc, List.nil_append, List.length_cons,
    List.length_append, List.length_nil] at hfuel ⊢
  rw [parseValue, if_neg (by decide), if_neg (by decide), if_pos rfl]
  cases items with
  | nil => rfl
  | cons item items =>
    have hread := @parseItems_text _ item items hitems fuel rest (by omega)
    obtain ⟨c, cs, htext, hc⟩ := head_text item
    obtain ⟨ds, hjoin⟩ := head_commaJoin (items.map text) htext
    rw [List.map_cons, hjoin, List.cons_append] at hread ⊢
    rw [skipBlanks_of_head hc.not_blank]
    split
    · rename_i hbracket
      exact absurd (List.cons.inj hbracket).1 (hc.ne (by decide))
    · simp only [hread, Option.bind_eq_bind, Option.bind_some, List.map_cons]

private theorem readBack_object {members : List (Text × Json)}
    (hdistinct : (members.map Prod.fst).Nodup) (hkeys : ∀ x ∈ members, unpaired x.1 = true)
    (hvalues : ∀ x ∈ members, ReadBack x.2) : ReadBack (.object members) := by
  refine readBack_of_succ fun fuel rest hfuel _ => ?_
  rw [canonical_object]
  rw [text_object] at hfuel ⊢
  have hnodup : ((sortBy Prod.fst members).map Prod.fst).Nodup :=
    ((sortBy_perm Prod.fst members).map Prod.fst).nodup_iff.mpr hdistinct
  have hkeys : ∀ x ∈ sortBy Prod.fst members, unpaired x.1 = true := fun x hx =>
    hkeys x (mem_sortBy.mp hx)
  have hvalues : ∀ x ∈ sortBy Prod.fst members, ReadBack x.2 := fun x hx =>
    hvalues x (mem_sortBy.mp hx)
  simp only [List.cons_append, List.append_assoc, List.nil_append, List.length_cons,
    List.length_append, List.length_nil] at hfuel ⊢
  rw [parseValue, if_neg (by decide), if_pos rfl]
  cases hsorted : sortBy Prod.fst members with
  | nil => rfl
  | cons member members =>
    rw [hsorted] at hfuel hnodup hkeys hvalues
    have hread := @parseMembers_text _ member members hkeys hvalues fuel rest (by omega)
    obtain ⟨ds, hjoin⟩ := head_commaJoin (members.map fun x => memberText (x.1, x.2.text))
      (show memberText (member.1, member.2.text) = _ from rfl)
    rw [List.map_cons, hjoin, List.cons_append] at hread ⊢
    rw [skipBlanks_of_head (by decide)]
    split
    · rename_i hbrace
      exact absurd (List.cons.inj hbrace).1 (by decide)
    · have hnodup : (((member :: members).map fun x => (x.1, x.2.canonical)).map
          Prod.fst).Nodup := by
        rwa [List.map_map]
      simp only [hread, Option.bind_eq_bind, Option.bind_some]
      rw [List.map_cons] at hnodup ⊢
      exact if_pos hnodup

/-- **Every portable value is read back, up to the order of its keys.** -/
private theorem readBack_of_portable {value : Json} (h : value.Portable) : ReadBack value := by
  induction value using induction with
  | null => exact readBack_of_succ fun _ _ _ _ => rfl
  | bool b =>
    refine readBack_of_succ fun _ _ _ _ => ?_
    cases b <;> rfl
  | int n =>
    refine readBack_of_succ fun fuel rest _ hstop => ?_
    have hdigits : (integerLiteral n).integer.length ≤ maxStrDigits := of_decide_eq_true h.1
    rw [text, parseValue_number hstop, isFloat_integerLiteral, if_neg Bool.false_ne_true,
      if_pos hdigits, toInt_integerLiteral]
    rfl
  | float x =>
    cases x with
    | finite x =>
      refine readBack_of_succ fun fuel rest _ hstop => ?_
      rw [text, parseValue_number hstop, FloatFormat.repr_isFloat, if_pos rfl,
        FloatFormat.parse_repr]
      rfl
    | infinite negative => exact absurd h.1 Bool.false_ne_true
    | nan => exact absurd h.1 Bool.false_ne_true
  | string s =>
    refine readBack_of_succ fun fuel rest _ _ => ?_
    have hjoin : joinSurrogates (s.flatMap codeUnits) = s := joinSurrogates_codeUnits h.2.1
    simp only [text, quoted, List.cons_append, List.append_assoc, List.nil_append]
    rw [parseValue, if_pos rfl]
    simp only [scanString_escapes, Option.bind_eq_bind, Option.bind_some, hjoin]
    rfl
  | list items ih => exact readBack_list fun x hx => ih x hx (h.list x hx)
  | object members ih =>
    have hkeys := List.all_eq_true.mp (all_object.mp h.2.1).1
    exact readBack_object (of_decide_eq_true (all_object.mp h.2.2).1) hkeys
      fun x hx => ih x hx (h.object x hx)

/-- **A text that `dumps` writes is loaded as the value it was written from**, with sorted keys. -/
theorem loads_dumps {value : Json} {cs : List Char} (h : value.Portable)
    (hdumps : value.dumps = some cs) : loads cs = some value.canonical := by
  obtain rfl : value.text = cs := Option.some.inj ((if_pos h.1).symm.trans hdumps)
  obtain ⟨c, cs, htext, hc⟩ := head_text value
  have hread := readBack_of_portable h (2 * value.text.length) [] le_rfl fun _ hc => nomatch hc
  unfold loads
  rw [List.append_nil] at hread
  rw [htext] at hread ⊢
  have hbom : (c :: cs).head? ≠ some '\uFEFF' := by
    rw [List.head?_cons]
    exact fun heq => hc.ne (by decide) (Option.some.inj heq)
  rw [if_neg hbom, skipBlanks_of_head hc.not_blank, hread]
  rfl

end Format

end Json

/-- A decoded object: in no object of it does a key occur twice. -/
structure Dict where
  members : List (Text × Json)
  distinct : (Json.object members).all Json.distinct = true

/-- The object as a value. -/
def Dict.value (d : Dict) : Json := .object d.members

end ScarcityRouter.Lib
