import ThreatScope.Library.Table

/-!
# Invariants of the rows of a table

A property that holds of every row of a table, and what keeps it: a new row that has it, a
change that keeps it of the row it changes, and every deletion.
-/

set_option autoImplicit false

namespace ThreatScope.Library

universe u

namespace Table

variable {α : Type u} {table : Table α} {holds other : Nat → α → Prop}

/-- Every row has a property. -/
def Each (holds : Nat → α → Prop) (table : Table α) : Prop :=
  ∀ key value, table.get? key = some value → holds key value

namespace Each

theorem empty : Each holds (Table.empty : Table α) := by
  intro key value stored
  cases stored

theorem mono (each : Each holds table) (weaker : ∀ key value, holds key value → other key value) :
    Each other table :=
  fun key value stored => weaker key value (each key value stored)

theorem insert {value : α} (each : Each holds table) (new : holds table.nextKey value) :
    Each holds (table.insert value) := by
  intro key row stored
  rw [get?_insert] at stored
  split at stored
  · rename_i here
    cases stored
    exact here ▸ new
  · exact each key row stored

theorem modify {place : Nat} {change : α → α} (each : Each holds table)
    (kept : ∀ value, table.get? place = some value → holds place value →
      holds place (change value)) :
    Each holds (table.modify place change) := by
  intro key row stored
  rw [get?_modify] at stored
  split at stored
  · rename_i here
    obtain ⟨value, found, rfl⟩ := Option.map_eq_some_iff.mp stored
    rw [here] at found ⊢
    exact kept value found (each place value found)
  · exact each key row stored

end Each

/-! ## Columns -/

theorem map_insert {β : Type u} (table : Table α) (read : α → β) (value : α) :
    (table.insert value).map read = (table.map read).insert (read value) := by
  unfold Table.insert Table.map
  simp only [List.map_append, List.map_cons, List.map_nil]

theorem map_modify {β : Type u} (table : Table α) (read : α → β) (key : Nat) {change : α → α}
    (same : ∀ value, read (change value) = read value) :
    (table.modify key change).map read = table.map read := by
  unfold Table.modify Table.map
  simp only [List.map_map, Table.mk.injEq, true_and]
  refine List.map_congr_left fun row _ => ?_
  rw [Function.comp]
  split
  · rw [same]
  · rfl

theorem modify_congr {key : Nat} {first second : α → α} (table : Table α)
    (same : ∀ value, table.get? key = some value → first value = second value) :
    table.modify key first = table.modify key second := by
  unfold Table.modify
  simp only [Table.mk.injEq, true_and]
  refine List.map_congr_left fun row member => ?_
  split
  · rename_i here
    rw [same row.2 ((table.get?_eq_some_iff key row.2).mpr (here ▸ member))]
  · rfl

theorem map_modify_of_eq {β : Type u} (table : Table α) (read : α → β) (key : Nat)
    {change : α → α} {seen : β → β} (same : ∀ value, read (change value) = seen (read value)) :
    (table.modify key change).map read = (table.map read).modify key seen := by
  unfold Table.modify Table.map
  simp only [List.map_map, Table.mk.injEq, true_and]
  refine List.map_congr_left fun row _ => ?_
  simp only [Function.comp]
  split
  · rw [same]
  · rfl

end Table

end ThreatScope.Library
