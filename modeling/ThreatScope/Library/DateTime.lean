import Mathlib

/-!
# Dates and times as text

A naive time of Python's `datetime` with the bounds its constructor checks, and the
text `isoformat` makes of it. The numbers are padded to a fixed width, so a time can be
read back from its text (`isoformat_injective`).
-/

set_option autoImplicit false

namespace ThreatScope.Library

/-! ## Padded numbers -/

/-- The last digits of a number, as many as the width says. -/
def padded : Nat → Nat → List Char
  | 0, _ => []
  | width + 1, value => padded width (value / 10) ++ [Nat.digitChar (value % 10)]

@[simp] theorem length_padded (width value : Nat) : (padded width value).length = width := by
  induction width generalizing value with
  | zero => rfl
  | succ width ih => rw [padded, List.length_append, ih, List.length_singleton]

theorem digitChar_injective {first second : Nat} (small : first < 10) (also : second < 10)
    (same : Nat.digitChar first = Nat.digitChar second) : first = second := by
  have all : ∀ a < 10, ∀ b < 10, Nat.digitChar a = Nat.digitChar b → a = b := by decide
  exact all first small second also same

theorem padded_injective {width first second : Nat} (fits : first < 10 ^ width)
    (also : second < 10 ^ width) (same : padded width first = padded width second) :
    first = second := by
  induction width generalizing first second with
  | zero =>
    rw [Nat.pow_zero, Nat.lt_one_iff] at fits also
    rw [fits, also]
  | succ width ih =>
    obtain ⟨front, back⟩ := List.append_inj same (by simp)
    have digit : first % 10 = second % 10 :=
      digitChar_injective (Nat.mod_lt _ (by decide)) (Nat.mod_lt _ (by decide))
        (List.singleton_inj.mp back)
    have left : first / 10 < 10 ^ width := by
      apply Nat.div_lt_of_lt_mul
      rwa [Nat.mul_comm, ← Nat.pow_succ]
    have right : second / 10 < 10 ^ width := by
      apply Nat.div_lt_of_lt_mul
      rwa [Nat.mul_comm, ← Nat.pow_succ]
    have rest := ih left right front
    omega

theorem padded_append {width first second : Nat} {rest others : List Char}
    (fits : first < 10 ^ width) (also : second < 10 ^ width)
    (same : padded width first ++ rest = padded width second ++ others) :
    first = second ∧ rest = others := by
  obtain ⟨front, back⟩ := List.append_inj same (by simp)
  exact ⟨padded_injective fits also front, back⟩

/-! ## Times -/

/-- The days of a month of the Gregorian calendar. -/
def daysInMonth (year month : Nat) : Nat :=
  if month = 2 then
    if year % 4 = 0 ∧ (year % 100 ≠ 0 ∨ year % 400 = 0) then 29 else 28
  else if month = 4 ∨ month = 6 ∨ month = 9 ∨ month = 11 then 30
  else 31

/-- A naive `datetime`. -/
@[ext] structure DateTime where
  year : Nat
  month : Nat
  day : Nat
  hour : Nat
  minute : Nat
  second : Nat
  microsecond : Nat
  year_fits : 1 ≤ year ∧ year ≤ 9999
  month_fits : 1 ≤ month ∧ month ≤ 12
  day_fits : 1 ≤ day ∧ day ≤ daysInMonth year month
  hour_fits : hour < 24
  minute_fits : minute < 60
  second_fits : second < 60
  microsecond_fits : microsecond < 1000000
deriving DecidableEq

namespace DateTime

theorem day_le (time : DateTime) : time.day ≤ 31 := by
  have bound := time.day_fits.2
  unfold daysInMonth at bound
  split_ifs at bound <;> omega

/-- The fraction of a second, left out when it is zero. -/
def fraction (microsecond : Nat) : List Char :=
  if microsecond = 0 then [] else '.' :: padded 6 microsecond

/-- `time.isoformat()`. -/
def isoformat (time : DateTime) : String :=
  String.ofList (padded 4 time.year ++ '-' :: (padded 2 time.month ++ '-' :: (padded 2 time.day ++
    'T' :: (padded 2 time.hour ++ ':' :: (padded 2 time.minute ++ ':' :: (padded 2 time.second ++
      fraction time.microsecond))))))

theorem fraction_injective {first second : Nat} (fits : first < 1000000) (also : second < 1000000)
    (same : fraction first = fraction second) : first = second := by
  unfold fraction at same
  split at same
  · rename_i zero
    split at same
    · rename_i alsoZero
      rw [zero, alsoZero]
    · cases same
  · split at same
    · cases same
    · have fits : first < 10 ^ 6 := fits
      exact padded_injective fits also (List.cons.inj same).2

/-- **A time can be read back from its text.** -/
theorem isoformat_injective : Function.Injective isoformat := by
  intro first second same
  have text := String.ofList_inj.mp same
  obtain ⟨years, text⟩ := padded_append (by have := first.year_fits; omega)
    (by have := second.year_fits; omega) text
  obtain ⟨months, text⟩ := padded_append (by have := first.month_fits; omega)
    (by have := second.month_fits; omega) (List.cons.inj text).2
  obtain ⟨days, text⟩ := padded_append (by have := first.day_le; omega)
    (by have := second.day_le; omega) (List.cons.inj text).2
  obtain ⟨hours, text⟩ := padded_append (by have := first.hour_fits; omega)
    (by have := second.hour_fits; omega) (List.cons.inj text).2
  obtain ⟨minutes, text⟩ := padded_append (by have := first.minute_fits; omega)
    (by have := second.minute_fits; omega) (List.cons.inj text).2
  obtain ⟨seconds, text⟩ := padded_append (by have := first.second_fits; omega)
    (by have := second.second_fits; omega) (List.cons.inj text).2
  have fractions := fraction_injective first.microsecond_fits second.microsecond_fits text
  exact DateTime.ext years months days hours minutes seconds fractions

end DateTime

end ThreatScope.Library
