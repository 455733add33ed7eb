import Mathlib.Data.List.MinMax

/-!
# Rows named by their position

Rows that are only ever added can be named by their position in a list. A
search returns a row with its position; a row is changed in place with
`List.modify`.

`last?` is the newest row that passes a test, `largest?` the first row with the
largest measure among those that pass. The lemmas say what adding a row and
changing a row do to both.
-/

set_option autoImplicit false

namespace ThreatScope.Library.Rows

universe u

variable {α : Type u}

/-- The last row that passes a test, with its position. -/
def last? (rows : List α) (test : α → Bool) : Option (α × Nat) :=
  rows.zipIdx.reverse.find? fun row => test row.1

/-- The first row with the largest measure among those that pass a test, with
its position. -/
def largest? (rows : List α) (test : α → Bool) (measure : α → Nat) : Option (α × Nat) :=
  (rows.zipIdx.filter fun row => test row.1).argmax fun row => measure row.1

/-! ## What a search returns -/

theorem mem_of_last? {rows : List α} {test : α → Bool} {row : α} {position : Nat}
    (found : last? rows test = some (row, position)) :
    rows[position]? = some row ∧ test row = true := by
  have member := List.mem_reverse.mp (List.mem_of_find?_eq_some found)
  have passes := List.find?_some (p := fun row : α × Nat => test row.1) found
  exact ⟨List.mk_mem_zipIdx_iff_getElem?.mp member, passes⟩

theorem mem_of_largest? {rows : List α} {test : α → Bool} {measure : α → Nat} {row : α}
    {position : Nat} (found : largest? rows test measure = some (row, position)) :
    rows[position]? = some row ∧ test row = true := by
  obtain ⟨member, passes⟩ := List.mem_filter.mp (List.argmax_mem found)
  exact ⟨List.mk_mem_zipIdx_iff_getElem?.mp member, passes⟩

theorem last?_eq_none_iff {rows : List α} {test : α → Bool} :
    last? rows test = none ↔ ∀ row ∈ rows, test row = false := by
  unfold last?
  rw [List.find?_eq_none]
  constructor
  · intro none row member
    obtain ⟨position, here⟩ := List.getElem?_of_mem member
    have place : (row, position) ∈ rows.zipIdx.reverse :=
      List.mem_reverse.mpr (List.mk_mem_zipIdx_iff_getElem?.mpr here)
    simpa using none _ place
  · intro none row member
    have place := List.mem_reverse.mp member
    have here := List.mk_mem_zipIdx_iff_getElem?.mp (show (row.1, row.2) ∈ rows.zipIdx from place)
    simp [none row.1 (List.mem_of_getElem? here)]

/-! ## Adding a row -/

theorem zipIdx_concat (rows : List α) (row : α) :
    (rows ++ [row]).zipIdx = rows.zipIdx ++ [(row, rows.length)] := by
  simp [List.zipIdx_append]

theorem modify_concat (rows : List α) (row : α) (change : α → α) :
    (rows ++ [row]).modify rows.length change = rows ++ [change row] := by
  induction rows with
  | nil => rfl
  | cons first rest ih =>
    rw [List.cons_append, List.length_cons, List.modify_succ_cons, ih, List.cons_append]

theorem last?_concat (rows : List α) (row : α) (test : α → Bool) :
    last? (rows ++ [row]) test =
      if test row then some (row, rows.length) else last? rows test := by
  unfold last?
  rw [zipIdx_concat, List.reverse_append, List.reverse_singleton, List.singleton_append,
    List.find?_cons]
  cases test row <;> rfl

theorem largest?_concat (rows : List α) (row : α) (test : α → Bool) (measure : α → Nat) :
    largest? (rows ++ [row]) test measure =
      if test row then
        match largest? rows test measure with
        | none => some (row, rows.length)
        | some best =>
          if measure best.1 < measure row then some (row, rows.length) else some best
      else largest? rows test measure := by
  unfold largest?
  rw [zipIdx_concat, List.filter_append]
  cases passes : test row with
  | false => simp [passes]
  | true =>
    have single : List.filter (fun row : α × Nat => test row.1) [(row, rows.length)] =
        [(row, rows.length)] := by simp [passes]
    rw [single, List.argmax_concat, if_pos rfl]
    cases List.argmax (fun row : α × Nat => measure row.1)
      (List.filter (fun row => test row.1) rows.zipIdx) <;> rfl

/-! ## Changing a row -/

theorem zipIdx_modify (rows : List α) (position : Nat) (change : α → α) :
    (rows.modify position change).zipIdx =
      rows.zipIdx.map fun row =>
        if row.2 = position then (change row.1, row.2) else row := by
  apply List.ext_getElem?
  intro index
  simp only [List.getElem?_zipIdx, List.getElem?_modify, List.getElem?_map, Nat.zero_add]
  cases rows[index]? with
  | none => simp
  | some row =>
    by_cases same : position = index
    · simp [same]
    · have other : index ≠ position := fun equal => same equal.symm
      simp [same, other]

theorem argmax_map {β : Type u} (rows : List α) (change : α → β) (measure : β → Nat) :
    (rows.map change).argmax measure = (rows.argmax (measure ∘ change)).map change := by
  induction rows using List.reverseRecOn with
  | nil => rfl
  | append_singleton rows row ih =>
    rw [List.map_append, List.map_singleton, List.argmax_concat, List.argmax_concat, ih]
    cases rows.argmax (measure ∘ change) with
    | none => rfl
    | some best =>
      simp only [Option.map_some, Function.comp]
      split <;> rfl

theorem largest?_modify (rows : List α) (position : Nat) (change : α → α) (test : α → Bool)
    (measure : α → Nat) (sameTest : ∀ row, test (change row) = test row)
    (sameMeasure : ∀ row, measure (change row) = measure row) :
    largest? (rows.modify position change) test measure =
      (largest? rows test measure).map fun row =>
        if row.2 = position then (change row.1, row.2) else row := by
  have keptTest : (fun row : α × Nat => test row.1) ∘ (fun row =>
      if row.2 = position then (change row.1, row.2) else row) = fun row => test row.1 := by
    funext row
    simp only [Function.comp]
    split
    · exact sameTest row.1
    · rfl
  have keptMeasure : (fun row : α × Nat => measure row.1) ∘ (fun row =>
      if row.2 = position then (change row.1, row.2) else row) = fun row => measure row.1 := by
    funext row
    simp only [Function.comp]
    split
    · exact sameMeasure row.1
    · rfl
  unfold largest?
  rw [zipIdx_modify, List.filter_map, argmax_map, keptTest, keptMeasure]

theorem map_modify_of_kept {β : Type u} (rows : List α) (position : Nat) (change : α → α)
    (read : α → β) (kept : ∀ row, read (change row) = read row) :
    (rows.modify position change).map read = rows.map read := by
  apply List.ext_getElem?
  intro index
  simp only [List.getElem?_map, List.getElem?_modify]
  cases rows[index]? with
  | none => simp
  | some row =>
    by_cases same : position = index
    · simp [same, kept]
    · simp [same]

theorem getElem?_of_modify {rows : List α} {position index : Nat} {change : α → α} {row : α}
    (found : (rows.modify position change)[index]? = some row) :
    (index ≠ position ∧ rows[index]? = some row) ∨
      ∃ old, index = position ∧ rows[position]? = some old ∧ row = change old := by
  rw [List.getElem?_modify] at found
  by_cases here : position = index
  · subst here
    obtain ⟨old, stored, rfl⟩ := Option.map_eq_some_iff.mp found
    exact .inr ⟨old, rfl, stored, by simp⟩
  · refine .inl ⟨fun same => here same.symm, ?_⟩
    simpa [here] using found

theorem getElem?_modify_of_ne {rows : List α} {position index : Nat} {change : α → α}
    (different : index ≠ position) : (rows.modify position change)[index]? = rows[index]? := by
  have other : position ≠ index := fun same => different same.symm
  simp [other]

theorem eq_of_nodup_map {β : Type u} {rows : List α} {read : α → β}
    (distinct : (rows.map read).Nodup) {first second : Nat} {row other : α}
    (here : rows[first]? = some row) (there : rows[second]? = some other)
    (same : read row = read other) : first = second := by
  obtain ⟨bound, -⟩ := List.getElem?_eq_some_iff.mp here
  refine (List.getElem?_inj (by simpa using bound) distinct).mp ?_
  rw [List.getElem?_map, List.getElem?_map, here, there, Option.map_some, Option.map_some, same]

end ThreatScope.Library.Rows
