import Mathlib.Algebra.Order.Field.Rat
import Mathlib.Algebra.Order.Floor.Ring
import Mathlib.Data.List.GetD
import Mathlib.Data.List.Sort
import Mathlib.Data.Nat.Sqrt
import Mathlib.Data.Rat.Floor
import Mathlib.Tactic.FieldSimp
import Mathlib.Tactic.Linarith
import Mathlib.Tactic.NormNum
import Mathlib.Tactic.Positivity

/-!
# Rounding and quantiles

`round(value, digits)` of Python on rational numbers, and on their square roots: the nearest
multiple of a power of ten, and the even one from the middle. It is monotone and keeps the
numbers that have no more digits, so that a bound with few digits holds of the rounded
numbers as well (`roundTo_le`).
-/

set_option autoImplicit false

namespace ThreatScope.Library

/-- The nearest integer, the even one from the middle. -/
def roundEven (value : ℚ) : ℤ :=
  let below := ⌊value⌋
  let rest := value - below
  if rest < 1 / 2 then below
  else if 1 / 2 < rest then below + 1
  else if below % 2 = 0 then below
  else below + 1

/-- `round(value, digits)`. -/
def roundTo (digits : ℕ) (value : ℚ) : ℚ := roundEven (value * 10 ^ digits) / 10 ^ digits

/-- `round(math.sqrt(value), digits)`, of the exact root. -/
def roundedSqrt (digits : ℕ) (value : ℚ) : ℚ :=
  let scaled := 4 * value * 100 ^ digits
  -- Twice the root in units of the last digit, rounded down.
  let doubled := Nat.sqrt ⌊scaled⌋.toNat
  let below := doubled / 2
  let number :=
    if doubled % 2 = 0 then below
    else if (doubled : ℚ) ^ 2 = scaled ∧ below % 2 = 0 then below
    else below + 1
  number / 10 ^ digits

/-! ## To an integer -/

theorem floor_le_roundEven (value : ℚ) : ⌊value⌋ ≤ roundEven value := by
  unfold roundEven
  dsimp only
  split
  · exact le_rfl
  · split
    · omega
    · split
      · exact le_rfl
      · omega

theorem roundEven_le_floor_add_one (value : ℚ) : roundEven value ≤ ⌊value⌋ + 1 := by
  unfold roundEven
  dsimp only
  split
  · omega
  · split
    · exact le_rfl
    · split
      · omega
      · exact le_rfl

@[simp] theorem roundEven_intCast (number : ℤ) : roundEven number = number := by
  unfold roundEven
  dsimp only
  rw [Int.floor_intCast, sub_self, if_pos (by norm_num)]

theorem roundEven_mono {one other : ℚ} (le : one ≤ other) : roundEven one ≤ roundEven other := by
  rcases (Int.floor_le_floor le).lt_or_eq with below | same
  · exact (roundEven_le_floor_add_one one).trans (Int.add_one_le_of_lt below |>.trans
      (floor_le_roundEven other))
  · have rest : one - ⌊other⌋ ≤ other - ⌊other⌋ := sub_le_sub_right le _
    unfold roundEven
    dsimp only
    rw [same]
    -- Both lie over one integer, so only their distances from it are compared.
    split_ifs <;> first | omega | (exfalso; linarith)

/-! ## To digits -/

theorem roundTo_mono (digits : ℕ) {one other : ℚ} (le : one ≤ other) :
    roundTo digits one ≤ roundTo digits other := by
  unfold roundTo
  have scaled : one * 10 ^ digits ≤ other * 10 ^ digits := by
    refine mul_le_mul_of_nonneg_right le ?_
    positivity
  have rounded : (roundEven (one * 10 ^ digits) : ℚ) ≤ roundEven (other * 10 ^ digits) := by
    exact_mod_cast roundEven_mono scaled
  exact div_le_div_of_nonneg_right rounded (by positivity)

theorem roundTo_of_digits {digits : ℕ} {value : ℚ} (number : ℤ)
    (exact_ : value * 10 ^ digits = number) : roundTo digits value = value := by
  unfold roundTo
  rw [exact_, roundEven_intCast, ← exact_]
  exact mul_div_cancel_right₀ value (by positivity)

theorem roundTo_intCast (digits : ℕ) (number : ℤ) : roundTo digits number = number := by
  refine roundTo_of_digits (number * 10 ^ digits) ?_
  push_cast
  rfl

@[simp] theorem roundTo_zero (digits : ℕ) : roundTo digits 0 = 0 := by
  have same := roundTo_intCast digits 0
  rwa [Int.cast_zero] at same

theorem roundTo_nonneg (digits : ℕ) {value : ℚ} (nonneg : 0 ≤ value) :
    0 ≤ roundTo digits value := by
  rw [← roundTo_zero digits]
  exact roundTo_mono digits nonneg

theorem roundTo_le (digits : ℕ) {value : ℚ} {bound : ℤ} (le : value ≤ bound) :
    roundTo digits value ≤ bound := by
  rw [← roundTo_intCast digits bound]
  exact roundTo_mono digits le

theorem roundedSqrt_nonneg (digits : ℕ) (value : ℚ) : 0 ≤ roundedSqrt digits value := by
  unfold roundedSqrt
  positivity

@[simp] theorem roundedSqrt_one (digits : ℕ) : roundedSqrt digits 1 = 1 := by
  have square : (4 * 1 * 100 ^ digits : ℚ) = ((2 * 10 ^ digits : ℕ) ^ 2 : ℕ) := by
    push_cast
    rw [mul_pow, ← pow_mul, mul_comm digits 2, pow_mul]
    norm_num
  unfold roundedSqrt
  dsimp only
  rw [square, Int.floor_natCast, Int.toNat_natCast, Nat.sqrt_eq', Nat.mul_mod_right, if_pos rfl,
    Nat.mul_div_cancel_left _ (by norm_num)]
  push_cast
  exact div_self (by positivity)

/-!
## Quantiles of numbers in order

A quantile is read between two neighbours of a sorted list, in proportion to where it lies
between them. It lies within every bound of the numbers (`interpolate_le`,
`le_interpolate`), and a later position reads no smaller number (`interpolate_mono`). The
median is the middle number or the mean of the two in the middle.
-/

/-- The numbers in order. -/
def sortedNumbers (numbers : List ℚ) : List ℚ := numbers.insertionSort fun one other => one ≤ other

/-- What lies at a position between the numbers of a list. -/
def interpolate (ordered : List ℚ) (position : ℚ) : ℚ :=
  let lower := ⌊position⌋.toNat
  let upper := ⌈position⌉.toNat
  if lower = upper then ordered.getD lower 0
  else ordered.getD lower 0 +
    (ordered.getD upper 0 - ordered.getD lower 0) * (position - ⌊position⌋)

/-- `statistics.median`, of numbers that are not none. -/
def median (numbers : List ℚ) : ℚ :=
  let ordered := sortedNumbers numbers
  let half := ordered.length / 2
  if ordered.length % 2 = 1 then ordered.getD half 0
  else (ordered.getD (half - 1) 0 + ordered.getD half 0) / 2

/-! ## Sorted numbers -/

@[simp] theorem length_sortedNumbers (numbers : List ℚ) :
    (sortedNumbers numbers).length = numbers.length := List.length_insertionSort ..

theorem mem_sortedNumbers_iff {numbers : List ℚ} {number : ℚ} :
    number ∈ sortedNumbers numbers ↔ number ∈ numbers := List.mem_insertionSort _

theorem pairwise_sortedNumbers (numbers : List ℚ) :
    (sortedNumbers numbers).Pairwise fun one other => one ≤ other :=
  List.pairwise_insertionSort _ _

theorem sortedNumbers_of_pairwise {numbers : List ℚ}
    (ordered : numbers.Pairwise fun one other => one ≤ other) : sortedNumbers numbers = numbers :=
  List.Pairwise.insertionSort_eq ordered

theorem sortedNumbers_replicate_append {small large : ℚ} (le : small ≤ large) (count : Nat) :
    sortedNumbers (List.replicate count small ++ List.replicate count large) =
      List.replicate count small ++ List.replicate count large := by
  refine sortedNumbers_of_pairwise ?_
  rw [List.pairwise_append]
  refine ⟨List.pairwise_replicate.mpr (.inr le_rfl), List.pairwise_replicate.mpr (.inr le_rfl), ?_⟩
  intro one oneIn other otherIn
  rw [List.eq_of_mem_replicate oneIn, List.eq_of_mem_replicate otherIn]
  exact le

theorem sortedNumbers_ne_nil {numbers : List ℚ} (some : numbers ≠ []) :
    sortedNumbers numbers ≠ [] := by
  intro empty
  have same := length_sortedNumbers numbers
  rw [empty] at same
  exact some (List.length_eq_zero_iff.mp same.symm)

/-! ## Numbers of a list -/

section Entries

variable {ordered : List ℚ} {bound : ℚ}

theorem getD_mem {index : Nat} (inside : index < ordered.length) :
    ordered.getD index 0 ∈ ordered := by
  rw [List.getD_eq_getElem _ _ inside]
  exact List.getElem_mem inside

theorem getD_mono (sorted : ordered.Pairwise fun one other => one ≤ other) {one other : Nat}
    (le : one ≤ other) (inside : other < ordered.length) :
    ordered.getD one 0 ≤ ordered.getD other 0 := by
  rw [List.getD_eq_getElem _ _ inside, List.getD_eq_getElem _ _ (le.trans_lt inside)]
  rcases le.lt_or_eq with before | rfl
  · exact List.pairwise_iff_getElem.mp sorted one other _ inside before
  · exact le_rfl

end Entries

/-! ## Between neighbours -/

section Interpolation

variable {ordered : List ℚ} {position bound : ℚ}

theorem interpolate_cases (front : 0 ≤ position) (back : position ≤ ordered.length - 1)
    (some : ordered ≠ []) :
    ∃ (lower upper : Nat) (part : ℚ), lower = ⌊position⌋.toNat ∧ lower ≤ upper ∧
      upper ≤ lower + 1 ∧ upper < ordered.length ∧ 0 ≤ part ∧ part ≤ 1 ∧
      part = position - ⌊position⌋ ∧ (upper = lower → part = 0) ∧
      interpolate ordered position =
        ordered.getD lower 0 + (ordered.getD upper 0 - ordered.getD lower 0) * part := by
  have count : 0 < ordered.length := List.length_pos_of_ne_nil some
  have below : 0 ≤ ⌊position⌋ := Int.floor_nonneg.mpr front
  have above : ⌈position⌉ ≤ (ordered.length : ℤ) - 1 := by
    refine Int.ceil_le.mpr ?_
    push_cast
    exact back
  have near : ⌈position⌉ ≤ ⌊position⌋ + 1 := Int.ceil_le_floor_add_one position
  have order : ⌊position⌋ ≤ ⌈position⌉ := Int.floor_le_ceil position
  have part_nonneg : 0 ≤ position - ⌊position⌋ := sub_nonneg.mpr (Int.floor_le position)
  have part_le : position - ⌊position⌋ ≤ 1 := by
    have next := Int.lt_floor_add_one position
    linarith
  refine ⟨⌊position⌋.toNat, ⌈position⌉.toNat, position - ⌊position⌋, rfl, by omega, by omega,
    by omega, part_nonneg, part_le, rfl, ?_, ?_⟩
  · intro same
    have whole : ⌈position⌉ = ⌊position⌋ := by omega
    have le := Int.le_ceil position
    rw [whole] at le
    linarith [Int.floor_le position]
  · unfold interpolate
    dsimp only
    split
    · rename_i same
      rw [← same, sub_self, zero_mul, add_zero]
    · rfl

theorem interpolate_eq_of_neighbours {number : ℚ} (lower : ordered.getD ⌊position⌋.toNat 0 = number)
    (upper : ordered.getD ⌈position⌉.toNat 0 = number) : interpolate ordered position = number := by
  unfold interpolate
  dsimp only
  split
  · exact lower
  · rw [lower, upper, sub_self, zero_mul, add_zero]

theorem interpolate_le (front : 0 ≤ position) (back : position ≤ ordered.length - 1)
    (some : ordered ≠ []) (bounded : ∀ number ∈ ordered, number ≤ bound) :
    interpolate ordered position ≤ bound := by
  obtain ⟨lower, upper, part, -, le, -, inside, nonneg, le_one, -, -, same⟩ :=
    interpolate_cases front back some
  have one := bounded _ (getD_mem (le.trans_lt inside))
  have other := bounded _ (getD_mem inside)
  rw [same]
  nlinarith

theorem le_interpolate (front : 0 ≤ position) (back : position ≤ ordered.length - 1)
    (some : ordered ≠ []) (bounded : ∀ number ∈ ordered, bound ≤ number) :
    bound ≤ interpolate ordered position := by
  obtain ⟨lower, upper, part, -, le, -, inside, nonneg, le_one, -, -, same⟩ :=
    interpolate_cases front back some
  have one := bounded _ (getD_mem (le.trans_lt inside))
  have other := bounded _ (getD_mem inside)
  rw [same]
  nlinarith

/-- **A later position** reads no smaller number. -/
theorem interpolate_mono (sorted : ordered.Pairwise fun one other => one ≤ other) {later : ℚ}
    (front : 0 ≤ position) (le : position ≤ later) (back : later ≤ ordered.length - 1)
    (some : ordered ≠ []) : interpolate ordered position ≤ interpolate ordered later := by
  obtain ⟨lower, upper, part, lowerIs, order, near, inside, nonneg, le_one, partIs, whole, same⟩ :=
    interpolate_cases front (le.trans back) some
  obtain ⟨lower', upper', part', lowerIs', order', near', inside', nonneg', le_one', partIs',
    whole', same'⟩ := interpolate_cases (front.trans le) back some
  have floors : ⌊position⌋ ≤ ⌊later⌋ := Int.floor_le_floor le
  have floor_nonneg : 0 ≤ ⌊position⌋ := Int.floor_nonneg.mpr front
  have rise := getD_mono sorted order inside
  have rise' := getD_mono sorted order' inside'
  rw [same, same']
  rcases floors.lt_or_eq with before | here
  · -- The upper neighbour of the first is no later than the lower one of the second.
    have between := getD_mono sorted (show upper ≤ lower' by omega) (order'.trans_lt inside')
    nlinarith
  · have lowers : lower' = lower := by omega
    subst lowers
    rcases (show upper' = lower' ∨ upper' = lower' + 1 by omega) with flat | up
    · have none := whole' flat
      have less : part ≤ part' := by
        rw [partIs, partIs', here]
        linarith
      have zero : part = 0 := by linarith
      rw [none, zero]
      simp
    · have less : part ≤ part' := by
        rw [partIs, partIs', here]
        linarith
      rcases (show upper = lower' ∨ upper = lower' + 1 by omega) with flat | also
      · rw [whole flat]
        nlinarith
      · subst also
        subst up
        nlinarith

end Interpolation

/-! ## The median -/

section Median

variable {numbers : List ℚ} {bound : ℚ}

theorem le_median (some : numbers ≠ []) (bounded : ∀ number ∈ numbers, bound ≤ number) :
    bound ≤ median numbers := by
  have count : 0 < (sortedNumbers numbers).length :=
    List.length_pos_of_ne_nil (sortedNumbers_ne_nil some)
  have entry : ∀ index < (sortedNumbers numbers).length,
      bound ≤ (sortedNumbers numbers).getD index 0 := fun index inside =>
    bounded _ (mem_sortedNumbers_iff.mp (getD_mem inside))
  unfold median
  dsimp only
  split
  · exact entry _ (by omega)
  · have one := entry ((sortedNumbers numbers).length / 2 - 1) (by omega)
    have other := entry ((sortedNumbers numbers).length / 2) (by omega)
    linarith

theorem median_replicate_append {small large : ℚ} (le : small ≤ large) (count : Nat)
    (some : 0 < count) :
    median (List.replicate count small ++ List.replicate count large) = (small + large) / 2 := by
  unfold median
  dsimp only
  rw [sortedNumbers_replicate_append le, List.length_append, List.length_replicate,
    List.length_replicate, if_neg (by omega), show (count + count) / 2 = count by omega]
  have front : (List.replicate count small ++ List.replicate count large).getD (count - 1) 0 =
      small := by
    rw [List.getD_append _ _ _ _ (by simpa using some)]
    simp [some]
  have back : (List.replicate count small ++ List.replicate count large).getD count 0 = large := by
    rw [List.getD_append_right _ _ _ _ (by simp)]
    simp [some]
  rw [front, back]

end Median

end ThreatScope.Library
