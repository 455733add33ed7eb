import ThreatScope.Library.Selections

/-!
# Rows that are created or refreshed by a key

A writer looks for the row with the key of an item, refreshes that row if there is one and
adds a row otherwise. Where the rows have distinct keys, a run of such writes treats every key
on its own: what it leaves under a key is what the items with this key make of the row that
was there (`read_foldl`).
-/

set_option autoImplicit false

namespace ThreatScope.Library

universe u v w

/-- A writer that creates or refreshes the row with the key of an item. -/
structure Upsert (α : Type u) (ι : Type v) (κ : Type w) where
  keyOf : α → κ
  key : ι → κ
  create : ι → α
  refresh : ι → α → α
  keyOf_create : ∀ item, keyOf (create item) = key item
  keyOf_refresh : ∀ item row, keyOf (refresh item row) = keyOf row

namespace Upsert

variable {α : Type u} {ι : Type v} {κ : Type w} [DecidableEq κ] (upsert : Upsert α ι κ)

/-- The first row with a key. -/
def find? (table : Table α) (key : κ) : Option (Nat × α) :=
  table.first? fun _ row => upsert.keyOf row == key

/-- What is stored under a key. -/
def read (table : Table α) (key : κ) : Option α := (upsert.find? table key).map Prod.snd

/-- Create or refresh the row of an item. -/
def apply (table : Table α) (item : ι) : Table α :=
  match upsert.find? table (upsert.key item) with
  | some (place, _) => table.modify place (upsert.refresh item)
  | none => table.insert (upsert.create item)

/-- What an item makes of the row with its key. -/
def outcome (row : Option α) (item : ι) : Option α :=
  some (row.elim (upsert.create item) (upsert.refresh item))

/-- No two rows share a key. -/
def Distinct (table : Table α) : Prop :=
  ∀ first second one other, table.get? first = some one → table.get? second = some other →
    upsert.keyOf one = upsert.keyOf other → first = second

variable {upsert} {table : Table α}

theorem get?_of_find? {key : κ} {place : Nat} {row : α}
    (found : upsert.find? table key = some (place, row)) :
    table.get? place = some row ∧ upsert.keyOf row = key := by
  obtain ⟨stored, passes⟩ := Table.get?_of_first? found
  exact ⟨stored, beq_iff_eq.mp passes⟩

/-- **One write**: it changes what is found under the key of the item, and nothing else. -/
theorem find?_apply (table : Table α) (item : ι) (key : κ) :
    upsert.find? (upsert.apply table item) key =
      if upsert.key item = key then
        some ((upsert.find? table key).elim (table.nextKey, upsert.create item) fun row =>
          (row.1, upsert.refresh item row.2))
      else upsert.find? table key := by
  unfold apply
  cases found : upsert.find? table (upsert.key item) with
  | none =>
    dsimp only
    have added : upsert.find? (table.insert (upsert.create item)) key =
        (upsert.find? table key).or
          (if upsert.keyOf (upsert.create item) == key then
            some (table.nextKey, upsert.create item) else none) :=
      Table.first?_insert _ _ _
    rw [added, upsert.keyOf_create]
    by_cases here : upsert.key item = key
    · rw [if_pos here, if_pos (beq_iff_eq.mpr here), ← here, found]
      rfl
    · rw [if_neg here, if_neg (by simpa using here), Option.or_none]
  | some row =>
    obtain ⟨place, value⟩ := row
    obtain ⟨stored, keyed⟩ := get?_of_find? found
    have changed : upsert.find? (table.modify place (upsert.refresh item)) key =
        (upsert.find? table key).map fun row =>
          if row.1 = place then (row.1, upsert.refresh item row.2) else row :=
      Table.first?_modify _ _ _ fun _ row => by rw [upsert.keyOf_refresh]
    rw [changed]
    by_cases here : upsert.key item = key
    · rw [if_pos here, ← here, found, Option.map_some, if_pos rfl]
      rfl
    · rw [if_neg here]
      cases other : upsert.find? table key with
      | none => rfl
      | some row =>
        obtain ⟨otherPlace, otherValue⟩ := row
        obtain ⟨otherStored, otherKeyed⟩ := get?_of_find? other
        have apart : otherPlace ≠ place := by
          rintro rfl
          obtain rfl := Option.some.inj (otherStored.symm.trans stored)
          exact here (keyed.symm.trans otherKeyed)
        rw [Option.map_some, if_neg apart]

theorem read_apply (table : Table α) (item : ι) (key : κ) :
    upsert.read (upsert.apply table item) key =
      if upsert.key item = key then upsert.outcome (upsert.read table key) item
      else upsert.read table key := by
  unfold read
  rw [find?_apply]
  split
  · cases upsert.find? table key <;> rfl
  · rfl

/-- **A run of writes treats every key on its own.** -/
theorem read_foldl (items : List ι) (table : Table α) (key : κ) :
    upsert.read (items.foldl upsert.apply table) key =
      (items.filter fun item => upsert.key item = key).foldl upsert.outcome
        (upsert.read table key) := by
  induction items generalizing table with
  | nil => rfl
  | cons item rest ih =>
    rw [List.foldl_cons, ih, read_apply]
    by_cases here : upsert.key item = key
    · simp only [here, if_true, decide_true, List.filter_cons, List.foldl_cons]
    · simp only [here, if_false, decide_false, List.filter_cons, Bool.false_eq_true]

theorem Distinct.apply (distinct : upsert.Distinct table) (item : ι) :
    upsert.Distinct (upsert.apply table item) := by
  unfold Upsert.apply
  cases found : upsert.find? table (upsert.key item) with
  | none =>
    have unseen : ∀ place row, table.get? place = some row →
        upsert.keyOf row ≠ upsert.key item := fun place row stored =>
      beq_eq_false_iff_ne.mp (Table.first?_eq_none_iff.mp found place row stored)
    intro first second one other firstStored secondStored same
    dsimp only at firstStored secondStored
    rw [Table.get?_insert] at firstStored secondStored
    split at firstStored <;> split at secondStored
    · rename_i here there
      exact here.trans there.symm
    · obtain rfl := Option.some.inj firstStored
      exact absurd (same.symm.trans (upsert.keyOf_create item)) (unseen _ _ secondStored)
    · obtain rfl := Option.some.inj secondStored
      exact absurd (same.trans (upsert.keyOf_create item)) (unseen _ _ firstStored)
    · exact distinct _ _ _ _ firstStored secondStored same
  | some row =>
    have kept : ∀ place value, (table.modify row.1 (upsert.refresh item)).get? place = some value →
        ∃ old, table.get? place = some old ∧ upsert.keyOf value = upsert.keyOf old := by
      intro place value stored
      rw [Table.get?_modify] at stored
      split at stored
      · obtain ⟨old, oldStored, rfl⟩ := Option.map_eq_some_iff.mp stored
        exact ⟨old, oldStored, upsert.keyOf_refresh item old⟩
      · exact ⟨value, stored, rfl⟩
    intro first second one other firstStored secondStored same
    obtain ⟨oldOne, oldFirst, sameOne⟩ := kept _ _ firstStored
    obtain ⟨oldOther, oldSecond, sameOther⟩ := kept _ _ secondStored
    exact distinct _ _ _ _ oldFirst oldSecond (sameOne.symm.trans (same.trans sameOther))

/-- A run of upserts keeps the keys distinct. -/
theorem Distinct.foldl (distinct : upsert.Distinct table) (items : List ι) :
    upsert.Distinct (items.foldl upsert.apply table) := by
  induction items generalizing table with
  | nil => exact distinct
  | cons item rest ih => exact ih (distinct.apply item)

end Upsert

end ThreatScope.Library
