import ThreatScope.Library.Text

/-!
# Texts with a separator

A text that joins a number and another text by a separator names both, when the digits of
the number do not contain the separator. A text that joins parts without the separator is
split into these parts again.
-/

set_option autoImplicit false

namespace ThreatScope.Library

universe u

theorem eq_of_append_cons {α : Type u} {separator : α} {first second rest others : List α}
    (same : first ++ separator :: rest = second ++ separator :: others)
    (inFirst : separator ∉ first) (inSecond : separator ∉ second) :
    first = second ∧ rest = others := by
  induction first generalizing second with
  | nil =>
    cases second with
    | nil => exact ⟨rfl, (List.cons.inj same).2⟩
    | cons letter word =>
      rw [List.nil_append, List.cons_append] at same
      exact absurd ((List.cons.inj same).1 ▸ List.mem_cons_self ..) inSecond
  | cons letter word ih =>
    cases second with
    | nil =>
      rw [List.nil_append, List.cons_append] at same
      exact absurd ((List.cons.inj same).1 ▸ List.mem_cons_self ..) inFirst
    | cons other more =>
      rw [List.cons_append, List.cons_append] at same
      obtain ⟨rfl, tails⟩ := List.cons.inj same
      obtain ⟨rfl, rfl⟩ := ih tails (fun inside => inFirst (List.mem_cons_of_mem _ inside))
        (fun inside => inSecond (List.mem_cons_of_mem _ inside))
      exact ⟨rfl, rfl⟩

/-! ## Splitting what was joined -/

theorem splitChars_eq_splitOn (separator : Char) (text : List Char) :
    Text.splitChars separator text = text.splitOn separator := by
  induction text with
  | nil => rfl
  | cons c rest ih =>
    rw [Text.splitChars, List.splitOn_cons_eq_if_modifyHead, ih]
    by_cases here : c = separator
    · rw [if_pos here, if_pos (beq_iff_eq.mpr here)]
    · rw [if_neg here, if_neg fun same => here (beq_iff_eq.mp same)]
      have parts := List.splitOn_ne_nil separator rest
      cases split : rest.splitOn separator with
      | nil => exact absurd split parts
      | cons part others => rfl

theorem split_intercalate {separator : Char} {parts : List String} (some : parts ≠ [])
    (free : ∀ part ∈ parts, separator ∉ part.toList) :
    Text.split separator ((String.singleton separator).intercalate parts) = parts := by
  unfold Text.split
  rw [splitChars_eq_splitOn, String.toList_intercalate, String.toList_singleton,
    List.splitOn_intercalate, List.map_map]
  · simp only [Function.comp_def, String.ofList_toList, List.map_id']
  · intro part inside
    obtain ⟨text, listed, rfl⟩ := List.mem_map.mp inside
    exact free text listed
  · exact fun empty => some (List.map_eq_nil_iff.mp empty)

/-! ## The text of a number -/

theorem toList_toString (number : Nat) : (toString number).toList = Nat.toDigits 10 number := by
  exact String.toList_ofList

theorem colon_toDigits (number : Nat) : ':' ∉ Nat.toDigits 10 number := by
  intro member
  exact absurd (Nat.isDigit_of_mem_toDigits (by decide) (by decide) member) (by decide)

theorem toDigits_injective {first second : Nat}
    (same : Nat.toDigits 10 first = Nat.toDigits 10 second) : first = second := by
  rw [← @Nat.ofDigitChars_ten_toDigits first, same, Nat.ofDigitChars_ten_toDigits]

theorem not_mem_toString {symbol : Char} (sign : symbol.isDigit = false) (number : Nat) :
    symbol ∉ (toString number).toList := by
  intro member
  rw [toList_toString] at member
  have digit := Nat.isDigit_of_mem_toDigits (by decide) (by decide) member
  exact Bool.false_ne_true (sign.symm.trans digit)

theorem toString_negSucc (number : Nat) :
    toString (Int.negSucc number) = "-" ++ toString (number + 1) := rfl

theorem not_mem_toString_int {symbol : Char} (sign : symbol.isDigit = false)
    (other : symbol ≠ '-') (number : Int) : symbol ∉ (toString number).toList := by
  intro member
  cases number with
  | ofNat natural => exact not_mem_toString sign natural member
  | negSucc natural =>
    rw [toString_negSucc, String.toList_append, List.mem_append] at member
    rcases member with minus | digit
    · exact other (List.mem_singleton.mp minus)
    · exact not_mem_toString sign (natural + 1) digit

/-!
## Codes that can be read off the front of a text

A code writes values as lists of symbols. It is prefix-free when a coded value can be
read off the front of any text, whatever follows it, and delimited by a set of stops
when that is so in front of a stop. Every prefix-free code is delimited by any set
(`PrefixFree.delimited`), and an injective code that writes no stop is delimited by
them (`Delimited.of_injective`).

Texts are put together from coded values: one after the other (`PrefixFree.append`), by
their kind (`Delimited.sum`), and as a list that a stop closes (`PrefixFree.closed`).
-/

universe v w

variable {σ : Type u} {α : Type v} {β : Type w}

/-- A coded value can be read off the front of any text. -/
def PrefixFree (code : α → List σ) : Prop :=
  ∀ first second rest others, code first ++ rest = code second ++ others →
    first = second ∧ rest = others

/-- The text begins with a stop. -/
def BeginsWith (stop : σ → Prop) : List σ → Prop
  | [] => False
  | symbol :: _ => stop symbol

/-- A coded value can be read off the front of a text in which a stop follows it. -/
def Delimited (stop : σ → Prop) (code : α → List σ) : Prop :=
  ∀ first second rest others, BeginsWith stop rest → BeginsWith stop others →
    code first ++ rest = code second ++ others → first = second ∧ rest = others

section Codes

variable {code : α → List σ} {other : β → List σ} {stop : σ → Prop}

theorem PrefixFree.delimited (free : PrefixFree code) : Delimited stop code :=
  fun first second rest others _ _ same => free first second rest others same

theorem PrefixFree.of_reader {reader : List σ → Option (α × List σ)}
    (reads : ∀ value rest, reader (code value ++ rest) = some (value, rest)) : PrefixFree code := by
  intro first second rest others same
  have read := reads first rest
  rw [same, reads second others, Option.some.injEq, Prod.mk.injEq] at read
  exact ⟨read.1.symm, read.2.symm⟩

theorem PrefixFree.comp (free : PrefixFree code) {read : β → α}
    (injective : Function.Injective read) : PrefixFree fun value => code (read value) := by
  intro first second rest others same
  obtain ⟨equal, after⟩ := free _ _ _ _ same
  exact ⟨injective equal, after⟩

theorem PrefixFree.word (word : List σ) : PrefixFree fun _ : Unit => word :=
  fun _ _ _ _ same => ⟨rfl, List.append_cancel_left same⟩

theorem PrefixFree.prepend (free : PrefixFree code) (word : List σ) :
    PrefixFree fun value => word ++ code value := by
  intro first second rest others same
  rw [List.append_assoc, List.append_assoc] at same
  exact free _ _ _ _ (List.append_cancel_left same)

theorem append_eq_of_no_stop {first second rest others : List σ}
    (clear : ∀ symbol ∈ first, ¬ stop symbol) (alsoClear : ∀ symbol ∈ second, ¬ stop symbol)
    (begins : BeginsWith stop rest) (alsoBegins : BeginsWith stop others)
    (same : first ++ rest = second ++ others) : first = second ∧ rest = others := by
  induction first generalizing second with
  | nil =>
    cases second with
    | nil => exact ⟨rfl, same⟩
    | cons symbol second =>
      rw [List.nil_append] at same
      subst same
      exact absurd begins (alsoClear symbol (List.mem_cons_self ..))
  | cons symbol first ih =>
    cases second with
    | nil =>
      rw [List.nil_append] at same
      subst same
      exact absurd alsoBegins (clear symbol (List.mem_cons_self ..))
    | cons head second =>
      obtain ⟨rfl, tails⟩ := List.cons.inj same
      obtain ⟨rfl, after⟩ := ih (fun symbol member => clear symbol (.tail _ member))
        (fun symbol member => alsoClear symbol (.tail _ member)) tails
      exact ⟨rfl, after⟩

theorem Delimited.of_injective (injective : Function.Injective code)
    (clear : ∀ value, ∀ symbol ∈ code value, ¬ stop symbol) : Delimited stop code := by
  intro first second rest others begins alsoBegins same
  obtain ⟨equal, after⟩ :=
    append_eq_of_no_stop (clear first) (clear second) begins alsoBegins same
  exact ⟨injective equal, after⟩

theorem Delimited.sum {kind : σ → Prop} (delimited : Delimited stop code)
    (also : Delimited stop other) (begins : ∀ value, BeginsWith kind (code value))
    (apart : ∀ value, BeginsWith (fun symbol => ¬ kind symbol) (other value)) :
    Delimited stop (Sum.elim code other) := by
  have never (left : α) (right : β) (rest others : List σ) :
      code left ++ rest ≠ other right ++ others := by
    intro same
    have first := begins left
    have second := apart right
    revert same first second
    cases code left with
    | nil => exact fun _ none => none.elim
    | cons symbol word =>
      cases other right with
      | nil => exact fun _ _ none => none.elim
      | cons head text =>
        intro same isKind isNot
        obtain ⟨rfl, -⟩ := List.cons.inj same
        exact isNot isKind
  rintro (first | first) (second | second) rest others before after same
  · obtain ⟨equal, left⟩ := delimited _ _ _ _ before after same
    exact ⟨congrArg Sum.inl equal, left⟩
  · exact absurd same (never _ _ _ _)
  · exact absurd same.symm (never _ _ _ _)
  · obtain ⟨equal, left⟩ := also _ _ _ _ before after same
    exact ⟨congrArg Sum.inr equal, left⟩

/-- A list of coded values that a stop closes, when no coded value begins with the stop. -/
theorem PrefixFree.closed (free : PrefixFree code) (close : σ)
    (begins : ∀ value, BeginsWith (fun symbol => symbol ≠ close) (code value)) :
    PrefixFree fun values : List α => values.flatMap code ++ [close] := by
  have never (value : α) (rest others : List σ) : code value ++ rest ≠ close :: others := by
    intro same
    have first := begins value
    revert same first
    cases code value with
    | nil => exact fun _ none => none.elim
    | cons symbol word =>
      intro same apart
      exact apart (List.cons.inj same).1
  intro first
  induction first with
  | nil =>
    intro second rest others same
    simp only [List.flatMap_nil, List.nil_append, List.singleton_append] at same
    cases second with
    | nil => exact ⟨rfl, (List.cons.inj same).2⟩
    | cons value second =>
      simp only [List.flatMap_cons, List.append_assoc] at same
      exact absurd same.symm (never _ _ _)
  | cons value first ih =>
    intro second rest others same
    simp only [List.flatMap_cons, List.append_assoc] at same
    cases second with
    | nil =>
      simp only [List.flatMap_nil, List.nil_append, List.singleton_append] at same
      exact absurd same (never _ _ _)
    | cons head second =>
      simp only [List.flatMap_cons, List.append_assoc] at same
      obtain ⟨rfl, tails⟩ := free _ _ _ _ same
      obtain ⟨rfl, after⟩ := ih second rest others (by simpa using tails)
      exact ⟨rfl, after⟩

end Codes

end ThreatScope.Library
