import ThreatScope.Library.Json
import ThreatScope.Library.Separated

/-!
# The text of a JSON value

`json.dumps` with sorted keys, without blanks and with non-ASCII text kept. Two flat
objects with the same keys have the same text only when they are equal
(`canonical_injective`): a string can be read off the front of a text, a number in front
of a comma or a brace, and sorting does not lose a field.
-/

set_option autoImplicit false

namespace ThreatScope.Library

/-- A character of a JSON string. -/
def escapeChar (c : Char) : List Char :=
  if c = '"' then ['\\', '"']
  else if c = '\\' then ['\\', '\\']
  else if c = '\n' then ['\\', 'n']
  else if c = '\r' then ['\\', 'r']
  else if c = '\t' then ['\\', 't']
  else if c.toNat = 8 then ['\\', 'b']
  else if c.toNat = 12 then ['\\', 'f']
  else if c.toNat < 32 then
    ['\\', 'u', '0', '0', Nat.digitChar (c.toNat / 16), Nat.digitChar (c.toNat % 16)]
  else [c]

/-- A JSON string with its quotes. -/
def quoted (text : String) : List Char := '"' :: (text.toList.flatMap escapeChar ++ ['"'])

mutual
/-- `json.dumps(value, separators=(",", ":"), ensure_ascii=False)`. -/
def encode (py : Interpreter) : Json → List Char
  | .null => "null".toList
  | .bool value => if value then "true".toList else "false".toList
  | .int value => (Int.repr value).toList
  | .float value => (py.floatText value).toList
  | .str value => quoted value
  | .arr items => '[' :: encodeItems py true items
  | .obj fields => '\x7b' :: encodeFields py true fields

/-- The items of a list up to its bracket, each but the first after a comma. -/
def encodeItems (py : Interpreter) : Bool → List Json → List Char
  | _, [] => [']']
  | first, item :: rest =>
    (if first then [] else [',']) ++ encode py item ++ encodeItems py false rest

/-- The fields of an object up to its brace, each but the first after a comma. -/
def encodeFields (py : Interpreter) : Bool → List (String × Json) → List Char
  | _, [] => ['\x7d']
  | first, (key, value) :: rest =>
    (if first then [] else [',']) ++ quoted key ++ ':' :: encode py value ++
      encodeFields py false rest
end

/-- The order `sort_keys` sorts by. -/
def keyLe (left right : String × Json) : Prop := left.1 ≤ right.1

instance : DecidableRel keyLe := fun left right => inferInstanceAs (Decidable (left.1 ≤ right.1))

mutual
/-- The value with the keys of every object sorted. -/
def sortKeys : Json → Json
  | .arr items => .arr (sortItems items)
  | .obj fields => .obj ((sortFields fields).insertionSort keyLe)
  | value => value

/-- The items of a list with their keys sorted. -/
def sortItems : List Json → List Json
  | [] => []
  | item :: rest => sortKeys item :: sortItems rest

/-- The fields of an object with the keys of their values sorted. -/
def sortFields : List (String × Json) → List (String × Json)
  | [] => []
  | (key, value) :: rest => (key, sortKeys value) :: sortFields rest
end

/-- `json.dumps(value, sort_keys=True, separators=(",", ":"), ensure_ascii=False)`. -/
def canonical (py : Interpreter) (value : Json) : String :=
  String.ofList (encode py (sortKeys value))

/-! ## Reading strings and numbers -/

/-- The value of a hexadecimal digit. -/
def hexValue (c : Char) : Nat := if c.isDigit then c.toNat - 48 else c.toNat - 87

/-- Read one character of a JSON string. -/
def unescape : List Char → Option (Char × List Char)
  | '\\' :: 'u' :: '0' :: '0' :: high :: low :: rest =>
    some (Char.ofNat (16 * hexValue high + hexValue low), rest)
  | '\\' :: 'n' :: rest => some ('\n', rest)
  | '\\' :: 'r' :: rest => some ('\r', rest)
  | '\\' :: 't' :: rest => some ('\t', rest)
  | '\\' :: 'b' :: rest => some (Char.ofNat 8, rest)
  | '\\' :: 'f' :: rest => some (Char.ofNat 12, rest)
  | '\\' :: c :: rest => some (c, rest)
  | c :: rest => some (c, rest)
  | [] => none

theorem ofNat_hexDigits {c : Char} (control : c.toNat < 32) :
    Char.ofNat (16 * hexValue (Nat.digitChar (c.toNat / 16)) +
      hexValue (Nat.digitChar (c.toNat % 16))) = c := by
  have all : ∀ n < 32, Char.ofNat (16 * hexValue (Nat.digitChar (n / 16)) +
      hexValue (Nat.digitChar (n % 16))) = Char.ofNat n := by decide
  rw [all c.toNat control, Char.ofNat_toNat]

/-- Each escaped character is read back. -/
theorem unescape_escapeChar (c : Char) (rest : List Char) :
    unescape (escapeChar c ++ rest) = some (c, rest) := by
  have same {n : Nat} (code : c.toNat = n) : Char.ofNat n = c := by
    rw [← code, Char.ofNat_toNat]
  unfold escapeChar
  split
  · rename_i quote
    subst quote
    rfl
  split
  · rename_i backslash
    subst backslash
    rfl
  rename_i plain
  split
  · rename_i newline
    subst newline
    rfl
  split
  · rename_i carriage
    subst carriage
    rfl
  split
  · rename_i tab
    subst tab
    rfl
  split
  · rename_i backspace
    rw [← same backspace]
    rfl
  split
  · rename_i feed
    rw [← same feed]
    rfl
  split
  · rename_i control
    simp only [List.cons_append, List.nil_append, unescape, ofNat_hexDigits control]
  · simp [unescape, plain]

theorem escapeChar_prefixFree : PrefixFree escapeChar := .of_reader unescape_escapeChar

theorem escapeChar_begins (c : Char) :
    BeginsWith (fun symbol => symbol ≠ '"') (escapeChar c) := by
  unfold escapeChar
  repeat' split
  all_goals first
    | (show _ ≠ _; decide)
    | assumption

/-- **A string can be read off the front of a text.** -/
theorem quoted_prefixFree : PrefixFree quoted := by
  have closed := escapeChar_prefixFree.closed '"' escapeChar_begins
  have injective : Function.Injective String.toList := fun _ _ same => String.toList_inj.mp same
  exact (closed.comp injective).prepend ['"']

/-- What stands behind a value: a comma or a closing bracket or brace. -/
def IsStop (c : Char) : Prop := c = ',' ∨ c = ']' ∨ c = '\x7d'

theorem isDigit_or_minus_of_mem_repr {number : Int} {c : Char}
    (member : c ∈ (Int.repr number).toList) : c.isDigit = true ∨ c = '-' := by
  have digits {n : Nat} (inside : c ∈ (Nat.repr n).toList) : c.isDigit = true := by
    rw [Nat.repr, String.toList_ofList] at inside
    exact Nat.isDigit_of_mem_toDigits (by decide) (by decide) inside
  cases number with
  | ofNat n => exact .inl (digits member)
  | negSucc n =>
    simp only [Int.repr, String.toList_append, List.mem_append] at member
    rcases member with minus | inside
    · exact .inr (by simpa using minus)
    · exact .inl (digits inside)

/-- **A number can be read off in front of a stop.** -/
theorem repr_delimited : Delimited IsStop fun number : Int => (Int.repr number).toList := by
  apply Delimited.of_injective
  · intro first second same
    exact Int.repr_injective (String.toList_inj.mp same)
  · intro number symbol member
    rcases isDigit_or_minus_of_mem_repr member with digit | rfl
    · rintro (rfl | rfl | rfl) <;> revert digit <;> decide
    · rintro (wrong | wrong | wrong) <;> revert wrong <;> decide

/-! ## Flat objects -/

/-- A value without parts, and no float. -/
def IsScalar : Json → Prop
  | .null => True
  | .int _ => True
  | .str _ => True
  | _ => False

@[simp] theorem isScalar_int (number : Int) : IsScalar (.int number) := trivial

@[simp] theorem isScalar_str (text : String) : IsScalar (.str text) := trivial

/-- The three kinds of scalars. -/
abbrev Scalar := Unit ⊕ Int ⊕ String

/-- The code of the three kinds. -/
def scalarCode : Scalar → List Char :=
  Sum.elim (fun _ => "null".toList) (Sum.elim (fun number => (Int.repr number).toList) quoted)

theorem repr_begins (number : Int) :
    BeginsWith (fun c => c.isDigit = true ∨ c = '-') (Int.repr number).toList := by
  have inside (c : Char) (member : c ∈ (Int.repr number).toList) : c.isDigit = true ∨ c = '-' :=
    isDigit_or_minus_of_mem_repr member
  have some_ : (Int.repr number).toList ≠ [] := by
    cases number with
    | ofNat n => simp [Int.repr]
    | negSucc n => simp [Int.repr]
  revert inside some_
  cases (Int.repr number).toList with
  | nil => exact fun _ wrong => (wrong rfl).elim
  | cons c text => exact fun inside _ => inside c (List.mem_cons_self ..)

theorem BeginsWith.mono {kind other : Char → Prop} (weaker : ∀ c, kind c → other c)
    {text : List Char} (begins : BeginsWith kind text) : BeginsWith other text := by
  cases text with
  | nil => exact begins
  | cons c text => exact weaker c begins

theorem scalarCode_delimited : Delimited IsStop scalarCode := by
  have numbers : Delimited IsStop
      (Sum.elim (fun number : Int => (Int.repr number).toList) quoted) := by
    apply repr_delimited.sum quoted_prefixFree.delimited repr_begins
    intro text
    show ¬ ('"'.isDigit = true ∨ '"' = '-')
    decide
  have apart (value : Int ⊕ String) : BeginsWith (fun c => ¬ c = 'n')
      (Sum.elim (fun number : Int => (Int.repr number).toList) quoted value) := by
    rcases value with number | text
    · refine (repr_begins number).mono ?_
      rintro c (digit | minus) rfl
      · revert digit
        decide
      · revert minus
        decide
    · show ¬ ('"' = 'n')
      decide
  have named : Delimited IsStop fun _ : Unit => "null".toList := (PrefixFree.word _).delimited
  have begins (nothing : Unit) : BeginsWith (fun c => c = 'n') "null".toList := rfl
  exact named.sum numbers begins apart

/-- The value of a scalar. -/
def Scalar.value : Scalar → Json
  | .inl _ => .null
  | .inr (.inl number) => .int number
  | .inr (.inr text) => .str text

section Objects

variable (py : Interpreter)

theorem encode_value (scalar : Scalar) : encode py scalar.value = scalarCode scalar := by
  rcases scalar with _ | number | text
  · rfl
  · rfl
  · rfl

theorem exists_scalar {value : Json} (scalar : IsScalar value) :
    ∃ kind : Scalar, kind.value = value := by
  cases value with
  | null => exact ⟨.inl (), rfl⟩
  | int number => exact ⟨.inr (.inl number), rfl⟩
  | str text => exact ⟨.inr (.inr text), rfl⟩
  | bool _ => cases scalar
  | float _ => cases scalar
  | arr _ => cases scalar
  | obj _ => cases scalar

theorem encode_delimited {first second : Json} (scalar : IsScalar first)
    (alsoScalar : IsScalar second) {rest others : List Char} (begins : BeginsWith IsStop rest)
    (alsoBegins : BeginsWith IsStop others)
    (same : encode py first ++ rest = encode py second ++ others) :
    first = second ∧ rest = others := by
  obtain ⟨left, rfl⟩ := exists_scalar scalar
  obtain ⟨right, rfl⟩ := exists_scalar alsoScalar
  rw [encode_value, encode_value] at same
  obtain ⟨rfl, after⟩ := scalarCode_delimited left right rest others begins alsoBegins same
  exact ⟨rfl, after⟩

theorem encodeFields_begins (fields : List (String × Json)) :
    BeginsWith IsStop (encodeFields py false fields) := by
  cases fields with
  | nil => exact .inr (.inr rfl)
  | cons field rest => exact .inl rfl

theorem encodeFields_cons_ne (first : Bool) (field : String × Json)
    (fields : List (String × Json)) :
    encodeFields py first (field :: fields) ≠ ['\x7d'] := by
  cases first with
  | false => simp [encodeFields]
  | true => simp [encodeFields, quoted]

theorem encodeFields_injective {first : Bool} {fields others : List (String × Json)}
    (scalars : ∀ field ∈ fields, IsScalar field.2)
    (alsoScalars : ∀ field ∈ others, IsScalar field.2)
    (same : encodeFields py first fields = encodeFields py first others) :
    fields = others := by
  induction fields generalizing first others with
  | nil =>
    cases others with
    | nil => rfl
    | cons field others =>
      rw [encodeFields] at same
      exact absurd same.symm (encodeFields_cons_ne py first field others)
  | cons field fields ih =>
    cases others with
    | nil =>
      rw [encodeFields.eq_1 py first] at same
      exact absurd same (encodeFields_cons_ne py first field fields)
    | cons other others =>
      obtain ⟨key, value⟩ := field
      obtain ⟨name, item⟩ := other
      simp only [encodeFields, List.append_assoc, List.cons_append] at same
      obtain ⟨rfl, values⟩ := quoted_prefixFree _ _ _ _ (List.append_cancel_left same)
      obtain ⟨rfl, tails⟩ := encode_delimited py (scalars _ (List.mem_cons_self ..))
        (alsoScalars _ (List.mem_cons_self ..)) (encodeFields_begins py fields)
        (encodeFields_begins py others) (List.cons.inj values).2
      rw [ih (fun field member => scalars field (.tail _ member))
        (fun field member => alsoScalars field (.tail _ member)) tails]

end Objects

/-! ## Sorting -/

theorem sortKeys_of_isScalar {value : Json} (scalar : IsScalar value) : sortKeys value = value := by
  cases value with
  | null => rfl
  | int number => rfl
  | str text => rfl
  | bool _ => cases scalar
  | float _ => cases scalar
  | arr _ => cases scalar
  | obj _ => cases scalar

theorem sortFields_of_flat {fields : List (String × Json)}
    (scalars : ∀ field ∈ fields, IsScalar field.2) : sortFields fields = fields := by
  induction fields with
  | nil => rfl
  | cons field fields ih =>
    rw [sortFields, sortKeys_of_isScalar (scalars field (List.mem_cons_self ..)),
      ih fun other member => scalars other (.tail _ member)]

/-- Fields with the same distinct keys in the same order are equal when they are the same
fields in some order. -/
theorem eq_of_keys_of_subset {α β : Type} {fields others : List (α × β)}
    (keys : fields.map Prod.fst = others.map Prod.fst) (distinct : (fields.map Prod.fst).Nodup)
    (inside : ∀ field ∈ fields, field ∈ others) : fields = others := by
  induction fields generalizing others with
  | nil => exact (List.map_eq_nil_iff.mp keys.symm).symm
  | cons field fields ih =>
    cases others with
    | nil => cases keys
    | cons other others =>
      obtain ⟨key, value⟩ := field
      obtain ⟨name, item⟩ := other
      simp only [List.map_cons, List.cons.injEq] at keys
      obtain ⟨rfl, tails⟩ := keys
      obtain ⟨fresh, distinct⟩ := List.nodup_cons.mp distinct
      have head : (key, value) = (key, item) := by
        rcases List.mem_cons.mp (inside _ (List.mem_cons_self ..)) with same | later
        · exact same
        · exact absurd (tails ▸ List.mem_map_of_mem later) fresh
      have rest (field : α × β) (member : field ∈ fields) : field ∈ others := by
        rcases List.mem_cons.mp (inside _ (.tail _ member)) with rfl | later
        · exact absurd (List.mem_map_of_mem member) fresh
        · exact later
      rw [head, ih tails distinct rest]

/-- **Flat objects with the same keys and the same text are equal.** -/
theorem canonical_injective (py : Interpreter) {fields others : Dict}
    (keys : fields.map Prod.fst = others.map Prod.fst) (distinct : (fields.map Prod.fst).Nodup)
    (scalars : ∀ field ∈ fields, IsScalar field.2)
    (alsoScalars : ∀ field ∈ others, IsScalar field.2)
    (same : canonical py (.obj fields) = canonical py (.obj others)) :
    fields = others := by
  have opened : encodeFields py true ((sortFields fields).insertionSort keyLe) =
      encodeFields py true ((sortFields others).insertionSort keyLe) :=
    (List.cons.inj (String.ofList_inj.mp same)).2
  rw [sortFields_of_flat scalars, sortFields_of_flat alsoScalars] at opened
  have sorted : fields.insertionSort keyLe = others.insertionSort keyLe := by
    apply encodeFields_injective py _ _ opened
    · exact fun field member => scalars field ((List.mem_insertionSort keyLe).mp member)
    · exact fun field member => alsoScalars field ((List.mem_insertionSort keyLe).mp member)
  apply eq_of_keys_of_subset keys distinct
  intro field member
  rw [← List.mem_insertionSort keyLe, ← sorted, List.mem_insertionSort]
  exact member

end ThreatScope.Library
