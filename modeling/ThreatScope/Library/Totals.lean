import ThreatScope.Library.Table

/-!
# Totals of a column

The sum of a column over the rows of a table, and what a write of one row does to it. A
write that moves an amount from one row to another is two of these.
-/

set_option autoImplicit false

namespace ThreatScope.Library

universe u

namespace Table

variable {α : Type u}

/-- The sum of a column. -/
def total (table : Table α) (amount : α → Nat) : Nat :=
  (table.rows.map fun row => amount row.2).sum

theorem count_eq_total (table : Table α) (test : α → Bool) :
    (table.count fun _ value => test value) =
      table.total fun value => if test value then 1 else 0 := by
  unfold count total
  induction table.rows with
  | nil => rfl
  | cons row rest ih => rw [List.countP_cons, List.map_cons, List.sum_cons, ih, Nat.add_comm]

theorem total_modify_of_eq (table : Table α) (amount : α → Nat) (key : Nat) {change : α → α}
    (kept : ∀ value, amount (change value) = amount value) :
    (table.modify key change).total amount = table.total amount := by
  unfold total modify
  simp only [List.map_map]
  congr 1
  refine List.map_congr_left fun row _ => ?_
  simp only [Function.comp]
  split
  · exact kept row.2
  · rfl

theorem exists_split {table : Table α} {key : Nat} {value : α}
    (stored : table.get? key = some value) :
    ∃ before after, table.rows = before ++ (key, value) :: after ∧
      (∀ row ∈ before, row.1 ≠ key) ∧ ∀ row ∈ after, row.1 ≠ key := by
  obtain ⟨before, after, split⟩ := List.append_of_mem ((table.get?_eq_some_iff key value).mp stored)
  have unique := table.keys_nodup
  rw [split, List.map_append, List.map_cons, List.nodup_append] at unique
  obtain ⟨-, later, apart⟩ := unique
  refine ⟨before, after, split, fun row member same => ?_, fun row member same => ?_⟩
  · exact apart row.1 (List.mem_map_of_mem member) key (List.mem_cons_self ..) same
  · have place : key ∈ after.map Prod.fst := by
      rw [← same]
      exact List.mem_map_of_mem member
    exact (List.nodup_cons.mp later).1 place

/-- **Writing a row exchanges its amount.** -/
theorem total_modify {table : Table α} (amount : α → Nat) {key : Nat} {value : α}
    (stored : table.get? key = some value) (change : α → α) :
    (table.modify key change).total amount + amount value =
      table.total amount + amount (change value) := by
  obtain ⟨before, after, split, first, last⟩ := exists_split stored
  have kept : ∀ rows : List (Nat × α), (∀ row ∈ rows, row.1 ≠ key) →
      (rows.map fun row => if row.1 = key then (row.1, change row.2) else row) = rows := by
    intro rows apart
    refine (List.map_congr_left fun row member => ?_).trans (List.map_id _)
    rw [if_neg (apart row member)]
    rfl
  simp only [total, modify, split, List.map_append, List.map_cons, kept before first,
    kept after last, if_true, List.sum_append, List.sum_cons]
  omega

theorem get?_delete (table : Table α) (key other : Nat) :
    (table.deleteWhere fun id _ => id == key).get? other =
      if other = key then none else table.get? other := by
  rw [get?_deleteWhere]
  cases table.get? other with
  | none => simp
  | some value => simp [Option.filter_some]

/-- **Deleting a row takes its amount.** -/
theorem total_delete {table : Table α} (amount : α → Nat) {key : Nat} {value : α}
    (stored : table.get? key = some value) :
    (table.deleteWhere fun id _ => id == key).total amount + amount value =
      table.total amount := by
  obtain ⟨before, after, split, first, last⟩ := exists_split stored
  have kept : ∀ rows : List (Nat × α), (∀ row ∈ rows, row.1 ≠ key) →
      (rows.filter fun row => !(row.1 == key)) = rows := by
    intro rows apart
    exact List.filter_eq_self.mpr fun row member => by simp [apart row member]
  simp only [total, deleteWhere, split, List.filter_append, List.filter_cons, kept before first,
    kept after last, beq_self_eq_true, Bool.not_true, Bool.false_eq_true, if_false,
    List.map_append, List.map_cons, List.sum_append, List.sum_cons]
  omega

end Table

end ThreatScope.Library
