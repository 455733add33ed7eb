import ThreatScope.Library.Separated

/-!
# Cutting letters at a sign

`partition` and `rpartition` of Python on lists of letters, the runs that `re.sub` replaces
by one sign, and the letters that `rstrip` removes from the end.
-/

set_option autoImplicit false

namespace ThreatScope.Library

variable {separator : Char} {text front back : List Char}

/-! ## The first sign -/

/-- `text.partition(separator)`: the letters before it and those after it, when it is there. -/
def partition (separator : Char) : List Char → List Char × Option (List Char)
  | [] => ([], none)
  | c :: rest =>
    if c = separator then ([], some rest)
    else (c :: (partition separator rest).1, (partition separator rest).2)

theorem partition_of_not_mem (free : separator ∉ text) :
    partition separator text = (text, none) := by
  induction text with
  | nil => rfl
  | cons c rest ih =>
    rw [List.mem_cons, not_or] at free
    rw [partition, if_neg (Ne.symm free.1), ih free.2]

theorem partition_append (free : separator ∉ front) :
    partition separator (front ++ separator :: back) = (front, some back) := by
  induction front with
  | nil => rw [List.nil_append, partition, if_pos rfl]
  | cons c rest ih =>
    rw [List.mem_cons, not_or] at free
    rw [List.cons_append, partition, if_neg (Ne.symm free.1), ih free.2]

theorem not_mem_partition (separator : Char) (text : List Char) :
    separator ∉ (partition separator text).1 := by
  induction text with
  | nil => exact List.not_mem_nil
  | cons c rest ih =>
    rw [partition]
    split
    · exact List.not_mem_nil
    · rename_i other
      simp only [List.mem_cons, not_or]
      exact ⟨Ne.symm other, ih⟩

theorem eq_of_partition (separator : Char) (text : List Char) :
    text = (partition separator text).1 ++
      ((partition separator text).2.map fun rest => separator :: rest).getD [] := by
  induction text with
  | nil => rfl
  | cons c rest ih =>
    rw [partition]
    split
    · rename_i same
      rw [same]
      rfl
    · exact congrArg (c :: ·) ih

theorem eq_of_partition_some (found : partition separator text = (front, some back)) :
    text = front ++ separator :: back ∧ separator ∉ front := by
  have whole := eq_of_partition separator text
  have free := not_mem_partition separator text
  rw [found] at whole free
  exact ⟨whole, free⟩

/-! ## The last sign -/

/-- `text.rpartition(separator)`: the letters before the last sign, when it is there, and
those after it. -/
def rpartition (separator : Char) : List Char → Option (List Char) × List Char
  | [] => (none, [])
  | c :: rest =>
    match rpartition separator rest with
    | (some front, back) => (some (c :: front), back)
    | (none, back) => if c = separator then (some [], back) else (none, c :: back)

/-! ## The end -/

/-- `text.rstrip(c)`. -/
def stripEnd (c : Char) (text : List Char) : List Char := text.rdropWhile (· == c)

/-! ## Runs -/

variable {passes : Char → Bool} {sign : Char}

end ThreatScope.Library
