import ScarcityRouter.Ident
import ScarcityRouter.Lib.Json

namespace ScarcityRouter

open ScarcityRouter.Lib

/-!
# Construction validators

`gateway_validation.py`: the restricted-grammar validators of the gateway family, over decoded JSON
values.

* `Fault` — what a `ValueError` of a validator says.
* `BoundedText`, `CanonicalTs` — the texts that `v_text` and `v_canonical_ts` accept.
* `vStr`, `vSafeId`, `vBool`, `vInt`, `vText`, `vCanonicalTs`, `vEnum` — the validators.
* `exactShape` — the exact key set of a record.
-/

/-! ### Faults -/

/-- What an error message says: the field, the value found there, and the bound it breaks. -/
inductive Fault where
  | stated (message : String)
  | refused (message : String) (value : Json)
  | expectedStr (field : String) (value : Json)
  | unsafeIdentifier (field : String) (value : Text)
  | expectedBool (field : String) (value : Json)
  | expectedInt (field : String) (value : Json)
  | below (field : String) (value lo : ℤ)
  | nonCanonicalTimestamp (field : String) (value : Text)
  | empty (field : String)
  | tooLong (field : String) (maxLen : ℕ)
  | notAllowed (field : String) (value : Text)
  | expectedMapping (field : String) (value : Json)
  | expectedDictLike (field : String) (value : Json)
  | expectedList (field : String) (value : Json)
  | unknownKeys (label : String) (keys : List Text)
  | missingKeys (label : String) (keys : List String)

/-! ### Texts -/

/-- A text that `v_text` accepts: not empty, and no longer than the bound. -/
def BoundedText (maxLen : ℕ) : Type := { t : Text // t ≠ [] ∧ t.length ≤ maxLen }

/-- A text that `v_str` and a length check accept. -/
def LimitedText (maxLen : ℕ) : Type := { t : Text // t.length ≤ maxLen }

/-- The zeros of the decimal digits, of which `\d` matches ten each. -/
def decimalZeros : List ℕ :=
  [0x30, 0x660, 0x6F0, 0x7C0, 0x966, 0x9E6, 0xA66, 0xAE6, 0xB66, 0xBE6, 0xC66, 0xCE6, 0xD66,
    0xDE6, 0xE50, 0xED0, 0xF20, 0x1040, 0x1090, 0x17E0, 0x1810, 0x1946, 0x19D0, 0x1A80, 0x1A90,
    0x1B50, 0x1BB0, 0x1C40, 0x1C50, 0xA620, 0xA8D0, 0xA900, 0xA9D0, 0xA9F0, 0xAA50, 0xABF0,
    0xFF10, 0x104A0, 0x10D30, 0x11066, 0x110F0, 0x11136, 0x111D0, 0x112F0, 0x11450, 0x114D0,
    0x11650, 0x116C0, 0x11730, 0x118E0, 0x11950, 0x11C50, 0x11D50, 0x11DA0, 0x11F50, 0x16A60,
    0x16AC0, 0x16B50, 0x1D7CE, 0x1D7D8, 0x1D7E2, 0x1D7EC, 0x1D7F6, 0x1E140, 0x1E2F0, 0x1E4F0,
    0x1E950, 0x1FBF0]

/-- `\d`. -/
def isDecimal (c : CodePoint) : Bool :=
  decimalZeros.any fun first => first ≤ c.val && c.val < first + 10

/-- `re.match` of a pattern whose `d` stands for `\d`; its `$` also matches before a final
    newline. -/
def matchesTemplate : List Char → Text → Bool
  | [], rest => rest = [] || rest = [codePoint '\n']
  | p :: ps, c :: cs => (if p = 'd' then isDecimal c else c = codePoint p) && matchesTemplate ps cs
  | _ :: _, [] => false

/-- `_CANONICAL_TS_RE`. -/
def matchesCanonicalTs (t : Text) : Bool := matchesTemplate "dddd-dd-ddTdd:dd:dd.dddZ".toList t

/-- A text that `v_canonical_ts` accepts. -/
def CanonicalTs : Type := { t : Text // matchesCanonicalTs t = true }

/-- The identifier a text is, if it matches `_SAFE_ID_RE`. -/
def safeId? (t : Text) : Option SafeId :=
  let s := String.ofList (t.map fun c => Char.ofNat c.val)
  if h : matchesSafeId s.toList = true then some ⟨s, h⟩ else none

/-- The text of an identifier. -/
def SafeId.toText (s : SafeId) : Text := Text.ofString s.text

/-! ### Validators -/

def vStr (value : Json) (field : String) : Except Fault Text :=
  match value with
  | .string s => .ok s
  | value => .error (.expectedStr field value)

def vSafeId (value : Json) (field : String) : Except Fault SafeId := do
  let s ← vStr value field
  match safeId? s with
  | some id => .ok id
  | none => .error (.unsafeIdentifier field s)

def vBool (value : Json) (field : String) : Except Fault Bool :=
  match value with
  | .bool b => .ok b
  | value => .error (.expectedBool field value)

/-- `v_int` with a lower bound. -/
def vInt (value : Json) (field : String) (lo : ℤ) : Except Fault { n : ℤ // lo ≤ n } :=
  match value with
  | .int n => if h : n < lo then .error (.below field n lo) else .ok ⟨n, not_lt.mp h⟩
  | value => .error (.expectedInt field value)

def vCanonicalTs (s : Text) (field : String) : Except Fault CanonicalTs :=
  if h : matchesCanonicalTs s = true then .ok ⟨s, h⟩ else .error (.nonCanonicalTimestamp field s)

def vText (value : Json) (field : String) (maxLen : ℕ) : Except Fault (BoundedText maxLen) := do
  let s ← vStr value field
  if hempty : s = [] then .error (.empty field)
  else if hlong : maxLen < s.length then .error (.tooLong field maxLen)
  else .ok ⟨s, hempty, not_lt.mp hlong⟩

/-- `v_enum`: the member of a closed vocabulary with the given text. -/
def vEnum {α : Type} (members : List α) (text : α → String) (value : Json) (field : String) :
    Except Fault α := do
  let s ← vStr value field
  match members.find? fun a => Text.ofString (text a) = s with
  | some a => .ok a
  | none => .error (.notAllowed field s)

/-- A serialized record: its members by key. -/
abbrev Record := List (Text × Json)

/-- `m.get(key)`. -/
def Record.get? (record : Record) (key : String) : Option Json :=
  (record.find? fun member => member.1 = Text.ofString key).map Prod.snd

/-- The keys of a record that are not allowed. -/
def Record.extraKeys (record : Record) (allowed : List String) : List Text :=
  (record.map Prod.fst).filter fun key => !allowed.any fun name => key = Text.ofString name

/-- The required keys a record lacks. -/
def Record.missing (record : Record) (required : List String) : List String :=
  required.filter fun key => (record.get? key).isNone

/-- The value of a key, unless it is missing or null. -/
def Record.present (record : Record) (key : String) : Option Json :=
  (record.get? key).filter (!·.isNull)

/-- One member of a record. -/
def member (key : String) (value : Json) : Text × Json := (Text.ofString key, value)

/-- A member that is left out when there is no value. -/
def optionalMember (key : String) (value : Option Json) : Record := value.toList.map (member key)

/-- The checks of `exact_shape` once the value is known to be a mapping. -/
def exactKeys (record : Record) (required optional : List String) (label : String) :
    Except Fault Record := do
  let extra := record.extraKeys (required ++ optional)
  let missing := record.missing required
  check (extra = []) (.unknownKeys label (sortBy id extra))
  check (missing = []) (.missingKeys label (sortBy id missing))
  .ok record

/-- Validate one serialized record's exact key set and narrow it. -/
def exactShape (value : Json) (required optional : List String) (label : String) :
    Except Fault Record :=
  match value with
  | .object members => exactKeys members required optional label
  | value => .error (.expectedMapping label value)

/-- `_v_exact_shape` of the resource and selection contracts, whose message differs. -/
def vExactShape (value : Json) (required optional : List String) (label : String) :
    Except Fault Record :=
  match value with
  | .object members => exactKeys members required optional label
  | value => .error (.expectedDictLike label value)

/-! ### Records -/

namespace Record

@[simp] theorem get?_nil (key : String) : get? [] key = none := rfl

@[simp] theorem get?_cons (name key : String) (value : Json) (record : Record) :
    get? (member name value :: record) key = if name = key then some value else record.get? key := by
  unfold get? member
  by_cases h : name = key
  · rw [List.find?_cons_of_pos (by simpa using h), if_pos h]
    rfl
  · rw [List.find?_cons_of_neg (by simpa using h), if_neg h]

@[simp] theorem get?_append (record rest : Record) (key : String) :
    get? (record ++ rest) key = (record.get? key).or (rest.get? key) := by
  unfold get?
  rw [List.find?_append]
  cases record.find? fun member => member.1 = Text.ofString key <;> rfl

@[simp] theorem get?_optionalMember (name key : String) (value : Option Json) :
    get? (optionalMember name value) key = if name = key then value else none := by
  cases value with
  | none => simp [optionalMember]
  | some value => simp [optionalMember]

/-- A member of the record gives its key a value. -/
theorem get?_isSome_of_mem {record : Record} {key : String} {value : Json}
    (h : member key value ∈ record) : (record.get? key).isSome = true := by
  unfold get?
  rw [Option.isSome_map, List.find?_isSome]
  exact ⟨_, h, decide_eq_true rfl⟩

/-- The value of a key is a member. -/
theorem mem_of_get? {record : Record} {key : String} {value : Json}
    (h : record.get? key = some value) : member key value ∈ record := by
  unfold get? at h
  obtain ⟨⟨name, found⟩, hfind, rfl⟩ := Option.map_eq_some_iff.mp h
  have hname := List.find?_some hfind
  obtain rfl : name = Text.ofString key := of_decide_eq_true hname
  exact List.mem_of_find?_eq_some hfind

/-- Every key has one of the names. -/
def KeysIn (record : Record) (names : List String) : Prop :=
  ∀ key ∈ record.map Prod.fst, ∃ name ∈ names, key = Text.ofString name

@[simp] theorem keysIn_nil (names : List String) : KeysIn [] names := fun _ h => nomatch h

@[simp] theorem keysIn_cons (name : String) (value : Json) (record : Record)
    (names : List String) :
    KeysIn (member name value :: record) names ↔ name ∈ names ∧ record.KeysIn names := by
  unfold KeysIn member
  rw [List.map_cons, List.forall_mem_cons]
  simp

@[simp] theorem keysIn_append (record rest : Record) (names : List String) :
    KeysIn (record ++ rest) names ↔ record.KeysIn names ∧ rest.KeysIn names := by
  unfold KeysIn
  rw [List.map_append, List.forall_mem_append]

theorem keysIn_optionalMember {name : String} (value : Option Json) {names : List String}
    (h : name ∈ names) : KeysIn (optionalMember name value) names := by
  cases value with
  | none => exact keysIn_nil names
  | some value => exact (keysIn_cons name value [] names).mpr ⟨h, keysIn_nil names⟩

/-- Every name is a key. -/
def HasKeys (record : Record) (names : List String) : Prop :=
  ∀ name ∈ names, (record.get? name).isSome = true

@[simp] theorem hasKeys_nil (record : Record) : record.HasKeys [] := fun _ h => nomatch h

@[simp] theorem hasKeys_cons (record : Record) (name : String) (names : List String) :
    record.HasKeys (name :: names) ↔ (record.get? name).isSome = true ∧ record.HasKeys names :=
  List.forall_mem_cons

end Record

/-- **The records that `exact_shape` narrows to.** -/
theorem exactKeys_eq_ok {record narrowed : Record} {required optional : List String}
    {label : String} : exactKeys record required optional label = .ok narrowed ↔
      narrowed = record ∧ record.KeysIn (required ++ optional) ∧ record.HasKeys required := by
  unfold exactKeys
  rw [check_bind_eq_ok, check_bind_eq_ok]
  have hextra : record.extraKeys (required ++ optional) = [] ↔
      record.KeysIn (required ++ optional) := by
    unfold Record.extraKeys Record.KeysIn
    rw [List.filter_eq_nil_iff]
    refine forall₂_congr fun key _ => ?_
    rw [Bool.not_eq_true', Bool.not_eq_false, List.any_eq_true]
    simp only [decide_eq_true_eq]
  have hmissing : record.missing required = [] ↔ record.HasKeys required := by
    unfold Record.missing Record.HasKeys
    rw [List.filter_eq_nil_iff]
    simp [Option.isSome_iff_ne_none]
  rw [hextra, hmissing, Except.ok.injEq]
  tauto

/-! ### Identifiers as texts -/

/-- An identifier is read back from its text. -/
@[simp] theorem safeId?_toText (s : SafeId) : safeId? s.toText = some s := by
  have htext : String.ofList (s.toText.map fun c => Char.ofNat c.val) = s.text := by
    unfold SafeId.toText Text.ofString
    rw [List.map_map, ← String.ofList_toList (s := s.text)]
    congr 1
    rw [String.toList_ofList]
    conv => rhs; rw [← List.map_id s.text.toList]
    exact List.map_congr_left fun c _ => Char.ofNat_toNat c
  unfold safeId?
  simp only [htext]
  exact dif_pos s.2

/-- No pattern accepts a null character. -/
private theorem ne_null_of_matchesSafeId {cs : List Char} (h : matchesSafeId cs = true) :
    ∀ c ∈ cs, c ≠ Char.ofNat 0 := by
  cases cs with
  | nil =>
    intro c hc
    cases hc
  | cons head tail =>
    simp only [matchesSafeId, Bool.and_eq_true] at h
    obtain ⟨⟨hhead, hbody⟩, -⟩ := h
    rw [List.all_eq_true] at hbody
    rintro c hc rfl
    rcases List.mem_cons.mp hc with rfl | hc
    · exact absurd hhead (by decide)
    · split at hbody
      · -- The final newline of the pattern is no null character either.
        rename_i hlast
        obtain ⟨front, rfl⟩ := List.getLast?_eq_some_iff.mp hlast
        rw [List.dropLast_concat] at hbody
        rcases List.mem_append.mp hc with hc | hc
        · exact absurd (hbody _ hc) (by decide)
        · exact absurd (List.mem_singleton.mp hc) (by decide)
      · exact absurd (hbody _ hc) (by decide)

/-- Only its own text is read as an identifier. -/
theorem toText_of_safeId? {t : Text} {s : SafeId} (h : safeId? t = some s) : s.toText = t := by
  unfold safeId? at h
  dsimp only at h
  split_ifs at h with hmatch
  obtain rfl := Option.some.inj h
  have hne := ne_null_of_matchesSafeId hmatch
  rw [String.toList_ofList] at hne
  unfold SafeId.toText Text.ofString SafeId.text
  rw [String.toList_ofList, List.map_map]
  conv => rhs; rw [← List.map_id t]
  refine List.map_congr_left fun c hc => Fin.ext ?_
  have hvalid := hne _ (List.mem_map_of_mem (f := fun c : CodePoint => Char.ofNat c.val) hc)
  -- A surrogate would have become a null character.
  have hchar : c.val.isValidChar := by
    by_contra hinvalid
    refine hvalid ?_
    rw [Char.ofNat, dif_neg hinvalid]
    rfl
  change (Char.ofNat c.val).toNat = c.val
  rw [Char.ofNat, dif_pos hchar]
  rfl

theorem SafeId.toText_injective : Function.Injective SafeId.toText := fun a b h => by
  have hfound := safeId?_toText a
  rw [h, safeId?_toText] at hfound
  exact (Option.some.inj hfound).symm

/-- The text of an identifier that `v_safe_id` returns. -/
theorem toText_of_vSafeId {t : Text} {field : String} {id : SafeId}
    (h : vSafeId (.string t) field = .ok id) : id.toText = t := by
  obtain ⟨s, hs, h⟩ := bind_eq_ok.mp h
  split at h
  · rename_i found hfound
    rw [← Except.ok.inj h, toText_of_safeId? hfound]
    exact (Except.ok.inj hs).symm
  · cases h

end ScarcityRouter
