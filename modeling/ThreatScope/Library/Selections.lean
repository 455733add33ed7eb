import ThreatScope.Library.Table

/-!
# Selections from a table

The rows of a table that pass a test, in the order in which they were added. Rows that
refer to a row of another table are read this way, as the lines of its history.
-/

set_option autoImplicit false

namespace ThreatScope.Library

universe u

namespace Table

variable {α : Type u} {table : Table α} {test : α → Bool}

/-- The rows that pass a test. -/
def select (table : Table α) (test : α → Bool) : List α :=
  (table.rows.map Prod.snd).filter test

theorem mem_select_iff {value : α} :
    value ∈ table.select test ↔ (∃ key, table.get? key = some value) ∧ test value = true := by
  rw [select, List.mem_filter, List.mem_map]
  refine and_congr_left fun _ => ⟨?_, ?_⟩
  · rintro ⟨⟨key, row⟩, member, rfl⟩
    exact ⟨key, (table.get?_eq_some_iff key row).mpr member⟩
  · rintro ⟨key, stored⟩
    exact ⟨(key, value), (table.get?_eq_some_iff key value).mp stored, rfl⟩

theorem select_insert (table : Table α) (test : α → Bool) (value : α) :
    (table.insert value).select test = table.select test ++ [value].filter test := by
  simp only [select, insert, List.map_append, List.filter_append, List.map_cons, List.map_nil]

theorem select_insert_of_true {value : α} (passes : test value = true) :
    (table.insert value).select test = table.select test ++ [value] := by
  rw [select_insert, List.filter_cons_of_pos passes, List.filter_nil]

theorem select_insert_of_false {value : α} (fails : test value = false) :
    (table.insert value).select test = table.select test := by
  rw [select_insert, List.filter_cons_of_neg (Bool.eq_false_iff.mp fails), List.filter_nil,
    List.append_nil]

theorem select_eq_nil_iff :
    table.select test = [] ↔ table.first? (fun _ value => test value) = none := by
  rw [select, first?, List.filter_eq_nil_iff, List.find?_eq_none, List.forall_mem_map]

theorem modify_insert (table : Table α) (value : α) (change : α → α) :
    (table.insert value).modify table.nextKey change = table.insert (change value) := by
  have rest : (table.rows.map fun row =>
      if row.1 = table.nextKey then (row.1, change row.2) else row) = table.rows := by
    conv_rhs => rw [← List.map_id table.rows]
    refine List.map_congr_left fun row member => ?_
    rw [if_neg (table.keys_lt row member).ne, id]
  simp only [modify, insert, List.map_append, rest, List.map_cons, List.map_nil, if_true]

/-! ## The first row that passes a test -/

theorem first?_insert (table : Table α) (value : α) (test : Nat → α → Bool) :
    (table.insert value).first? test =
      (table.first? test).or
        (if test table.nextKey value then some (table.nextKey, value) else none) := by
  unfold first? insert
  dsimp only
  rw [List.find?_append, List.find?_cons, List.find?_nil]
  cases test table.nextKey value <;> rfl

/-- A change that the test does not see changes the row that is found, and not which one. -/
theorem first?_modify (table : Table α) (place : Nat) (change : α → α) {test : Nat → α → Bool}
    (unseen : ∀ key value, test key (change value) = test key value) :
    (table.modify place change).first? test =
      (table.first? test).map fun row => if row.1 = place then (row.1, change row.2) else row := by
  unfold first? modify
  dsimp only
  have same : ((fun row : Nat × α => test row.1 row.2) ∘ fun row : Nat × α =>
      if row.1 = place then (row.1, change row.2) else row) = fun row => test row.1 row.2 := by
    funext row
    rw [Function.comp]
    split
    · exact unseen row.1 row.2
    · rfl
  rw [List.find?_map, same]

end Table

end ThreatScope.Library
