import Mathlib

/-!
# Tables with generated keys

A table keeps its rows in insertion order under keys it hands out itself. A
key is never handed out twice, so a key names one row for the whole life of
the table, also after the row is deleted.

The structure carries the two facts a primary key promises: no two rows share
a key, and the next key is larger than every key in use. Reading a row is
`get?`; the three ways to write are `insert`, `modify` and `deleteWhere`, and
the `simp` lemmas below say what each does to `get?` at every key.
-/

set_option autoImplicit false

namespace ThreatScope.Library

universe u

/-- Rows under generated keys. -/
structure Table (α : Type u) where
  nextKey : Nat
  rows : List (Nat × α)
  keys_lt : ∀ row ∈ rows, row.1 < nextKey
  keys_nodup : (rows.map Prod.fst).Nodup

namespace Table

variable {α : Type u}

/-- No rows yet; keys start at one. -/
def empty : Table α where
  nextKey := 1
  rows := []
  keys_lt := by simp
  keys_nodup := by simp

/-- The row stored under a key. -/
def get? (table : Table α) (key : Nat) : Option α :=
  (table.rows.find? fun row => row.1 == key).map Prod.snd

/-- Add a row under the next key. -/
def insert (table : Table α) (value : α) : Table α where
  nextKey := table.nextKey + 1
  rows := table.rows ++ [(table.nextKey, value)]
  keys_lt := by
    intro row member
    rcases List.mem_append.mp member with old | new
    · exact Nat.lt_succ_of_lt (table.keys_lt row old)
    · rw [List.mem_singleton.mp new]
      exact Nat.lt_succ_self _
  keys_nodup := by
    rw [List.map_append, List.nodup_append]
    refine ⟨table.keys_nodup, by simp, ?_⟩
    intro key old other new same
    obtain ⟨row, member, rfl⟩ := List.mem_map.mp old
    have bound := table.keys_lt row member
    simp only [List.map_cons, List.map_nil, List.mem_singleton] at new
    omega

/-- Change the row under a key. -/
def modify (table : Table α) (key : Nat) (change : α → α) : Table α where
  nextKey := table.nextKey
  rows := table.rows.map fun row => if row.1 = key then (row.1, change row.2) else row
  keys_lt := by
    intro row member
    obtain ⟨old, place, rfl⟩ := List.mem_map.mp member
    have bound := table.keys_lt old place
    split <;> exact bound
  keys_nodup := by
    have same : (table.rows.map fun row =>
        if row.1 = key then (row.1, change row.2) else row).map Prod.fst =
          table.rows.map Prod.fst := by
      rw [List.map_map]
      refine List.map_congr_left fun row _ => ?_
      simp only [Function.comp]
      split <;> rfl
    rw [same]
    exact table.keys_nodup

/-- Change every row. -/
def update (table : Table α) (change : Nat → α → α) : Table α where
  nextKey := table.nextKey
  rows := table.rows.map fun row => (row.1, change row.1 row.2)
  keys_lt := by
    intro row member
    obtain ⟨old, place, rfl⟩ := List.mem_map.mp member
    exact table.keys_lt old place
  keys_nodup := by
    rw [List.map_map]
    exact table.keys_nodup

/-- The same rows, read another way. -/
def map {β : Type u} (table : Table α) (read : α → β) : Table β where
  nextKey := table.nextKey
  rows := table.rows.map fun row => (row.1, read row.2)
  keys_lt := by
    intro row member
    obtain ⟨old, place, rfl⟩ := List.mem_map.mp member
    exact table.keys_lt old place
  keys_nodup := by
    rw [List.map_map]
    exact table.keys_nodup

/-- Delete the rows that satisfy a test. -/
def deleteWhere (table : Table α) (test : Nat → α → Bool) : Table α where
  nextKey := table.nextKey
  rows := table.rows.filter fun row => !test row.1 row.2
  keys_lt := fun row member => table.keys_lt row (List.mem_of_mem_filter member)
  keys_nodup := (List.filter_sublist.map Prod.fst).nodup table.keys_nodup

/-- The first row, by key order of insertion, that satisfies a test. -/
def first? (table : Table α) (test : Nat → α → Bool) : Option (Nat × α) :=
  table.rows.find? fun row => test row.1 row.2

/-- The last row that satisfies a test. -/
def last? (table : Table α) (test : Nat → α → Bool) : Option (Nat × α) :=
  table.rows.reverse.find? fun row => test row.1 row.2

/-- The row with the largest stamp among those that satisfy a test, the first
of them when several share it. -/
def newest? (table : Table α) (stamp : α → Int) (test : Nat → α → Bool) : Option (Nat × α) :=
  (table.rows.filter fun row => test row.1 row.2).foldl
    (fun best row => match best with
      | none => some row
      | some other => if stamp other.2 < stamp row.2 then some row else some other) none

/-- How many rows satisfy a test. -/
def count (table : Table α) (test : Nat → α → Bool) : Nat :=
  table.rows.countP fun row => test row.1 row.2

@[simp] theorem get?_empty (key : Nat) : (empty : Table α).get? key = none := rfl

theorem get?_eq_some_iff (table : Table α) (key : Nat) (value : α) :
    table.get? key = some value ↔ (key, value) ∈ table.rows := by
  have unique := table.keys_nodup
  unfold get?
  generalize table.rows = rows at unique
  induction rows with
  | nil => simp
  | cons row rest ih =>
    obtain ⟨rowKey, rowValue⟩ := row
    simp only [List.map_cons, List.nodup_cons] at unique
    by_cases same : rowKey = key
    · subst same
      have absent : (rowKey, value) ∉ rest := fun member =>
        unique.1 (List.mem_map.mpr ⟨_, member, rfl⟩)
      simp only [List.find?_cons, beq_self_eq_true, Option.map_some, Option.some.injEq,
        List.mem_cons, Prod.mk.injEq, true_and, absent, or_false]
      exact eq_comm
    · have different : (key, value) ≠ (rowKey, rowValue) := fun equal =>
        same (congrArg Prod.fst equal).symm
      simp only [List.find?_cons, beq_false_of_ne same, List.mem_cons, different, false_or]
      exact ih unique.2

theorem get?_eq_none_of_ge (table : Table α) {key : Nat} (fresh : table.nextKey ≤ key) :
    table.get? key = none := by
  cases found : table.get? key with
  | none => rfl
  | some value =>
    have bound := table.keys_lt _ ((table.get?_eq_some_iff key value).mp found)
    exact absurd bound (Nat.not_lt.mpr fresh)

theorem lt_nextKey_of_get? {table : Table α} {key : Nat} {value : α}
    (found : table.get? key = some value) : key < table.nextKey :=
  table.keys_lt _ ((table.get?_eq_some_iff key value).mp found)

theorem get?_insert (table : Table α) (value : α) (key : Nat) :
    (table.insert value).get? key =
      if key = table.nextKey then some value else table.get? key := by
  by_cases new : key = table.nextKey
  · subst new
    rw [if_pos rfl, get?_eq_some_iff]
    exact List.mem_append_right _ (List.mem_singleton.mpr rfl)
  · have miss : ((table.nextKey == key) : Bool) = false :=
      beq_false_of_ne fun equal => new equal.symm
    simp only [if_neg new, get?, insert, List.find?_append, List.find?_cons, miss,
      List.find?_nil, Option.or_none]

@[simp] theorem get?_insert_nextKey (table : Table α) (value : α) :
    (table.insert value).get? table.nextKey = some value := by
  rw [get?_insert, if_pos rfl]

theorem get?_insert_of_ne (table : Table α) (value : α) {key : Nat}
    (old : key ≠ table.nextKey) : (table.insert value).get? key = table.get? key := by
  rw [get?_insert, if_neg old]

@[simp] theorem nextKey_insert (table : Table α) (value : α) :
    (table.insert value).nextKey = table.nextKey + 1 := rfl

@[simp] theorem nextKey_modify (table : Table α) (key : Nat) (change : α → α) :
    (table.modify key change).nextKey = table.nextKey := rfl

@[simp] theorem nextKey_deleteWhere (table : Table α) (test : Nat → α → Bool) :
    (table.deleteWhere test).nextKey = table.nextKey := rfl

theorem get?_modify (table : Table α) (key other : Nat) (change : α → α) :
    (table.modify key change).get? other =
      if other = key then (table.get? other).map change else table.get? other := by
  unfold get? modify
  simp only
  generalize table.rows = rows
  induction rows with
  | nil => simp
  | cons row rest ih =>
    obtain ⟨rowKey, rowValue⟩ := row
    by_cases here : rowKey = other
    · subst here
      by_cases same : rowKey = key
      · simp [same]
      · simp [same]
    · have miss : ((rowKey == other) : Bool) = false := beq_false_of_ne here
      by_cases same : rowKey = key
      · simp only [List.map_cons, if_pos same, List.find?_cons, miss]
        exact ih
      · simp only [List.map_cons, if_neg same, List.find?_cons, miss]
        exact ih

@[simp] theorem get?_modify_self (table : Table α) (key : Nat) (change : α → α) :
    (table.modify key change).get? key = (table.get? key).map change := by
  rw [get?_modify, if_pos rfl]

theorem get?_modify_of_ne (table : Table α) {key other : Nat} (change : α → α)
    (different : other ≠ key) :
    (table.modify key change).get? other = table.get? other := by
  rw [get?_modify, if_neg different]

theorem rel_self {relation : α → α → Prop} (same : ∀ value, relation value value)
    (reading : Option α) : Option.Rel relation reading reading := by
  cases reading with
  | none => exact .none
  | some value => exact .some (same value)

theorem rel_comp {earlier later both : α → α → Prop} {first second third : Option α}
    (composed : ∀ old middle new, earlier old middle → later middle new → both old new)
    (before : Option.Rel earlier first second) (after : Option.Rel later second third) :
    Option.Rel both first third := by
  cases before with
  | none =>
    cases after
    exact .none
  | some old =>
    cases after with
    | some new => exact .some (composed _ _ _ old new)

/-- Reading before and after a change of one row gives rows that are related, when the
relation is reflexive and holds of the change. -/
theorem rel_modify (table : Table α) {relation : α → α → Prop} {key : Nat} {change : α → α}
    (same : ∀ value, relation value value)
    (changed : ∀ value, table.get? key = some value → relation value (change value)) (other : Nat) :
    Option.Rel relation (table.get? other) ((table.modify key change).get? other) := by
  rw [get?_modify]
  split
  · rename_i here
    subst here
    cases found : table.get? other with
    | none => exact .none
    | some value => exact .some (changed value found)
  · exact rel_self same _

@[simp] theorem nextKey_update (table : Table α) (change : Nat → α → α) :
    (table.update change).nextKey = table.nextKey := rfl

@[simp] theorem get?_update (table : Table α) (change : Nat → α → α) (key : Nat) :
    (table.update change).get? key = (table.get? key).map (change key) := by
  unfold get? update
  simp only
  generalize table.rows = rows
  induction rows with
  | nil => rfl
  | cons row rest ih =>
    obtain ⟨rowKey, rowValue⟩ := row
    by_cases here : rowKey = key
    · subst here
      simp
    · have miss : ((rowKey == key) : Bool) = false := beq_false_of_ne here
      simp only [List.map_cons, List.find?_cons, miss]
      exact ih

@[simp] theorem get?_map {β : Type u} (table : Table α) (read : α → β) (key : Nat) :
    (table.map read).get? key = (table.get? key).map read := by
  unfold get? map
  simp only
  generalize table.rows = rows
  induction rows with
  | nil => rfl
  | cons row rest ih =>
    obtain ⟨rowKey, rowValue⟩ := row
    by_cases here : rowKey = key
    · subst here
      simp
    · have miss : ((rowKey == key) : Bool) = false := beq_false_of_ne here
      simp only [List.map_cons, List.find?_cons, miss]
      exact ih

theorem count_pos_iff (table : Table α) (test : Nat → α → Bool) :
    0 < table.count test ↔ ∃ key value, table.get? key = some value ∧ test key value = true := by
  rw [count, List.countP_pos_iff]
  constructor
  · rintro ⟨⟨key, value⟩, member, passes⟩
    exact ⟨key, value, (table.get?_eq_some_iff key value).mpr member, passes⟩
  · rintro ⟨key, value, stored, passes⟩
    exact ⟨(key, value), (table.get?_eq_some_iff key value).mp stored, passes⟩

/-- When two rows pass a test, one of them is stored under another key than a given one. -/
theorem exists_ne_of_one_lt_count {table : Table α} {test : Nat → α → Bool}
    (several : 1 < table.count test) (key : Nat) :
    ∃ other value, other ≠ key ∧ table.get? other = some value ∧ test other value = true := by
  rw [count, List.countP_eq_length_filter] at several
  have unique : ((table.rows.filter fun row => test row.1 row.2).map Prod.fst).Nodup :=
    (List.filter_sublist.map Prod.fst).nodup table.keys_nodup
  have passes : ∀ row ∈ table.rows.filter fun row => test row.1 row.2,
      table.get? row.1 = some row.2 ∧ test row.1 row.2 = true := by
    intro row member
    obtain ⟨stored, passed⟩ := List.mem_filter.mp member
    exact ⟨(table.get?_eq_some_iff _ _).mpr stored, passed⟩
  revert several unique passes
  generalize (table.rows.filter fun row => test row.1 row.2) = rows
  intro several unique passes
  match rows with
  | [] => simp at several
  | [_] => simp at several
  | first :: second :: rest =>
    have apart : first.1 ≠ second.1 := by
      rintro same
      simp [same] at unique
    by_cases here : first.1 = key
    · obtain ⟨stored, passed⟩ := passes second (by simp)
      exact ⟨second.1, second.2, fun same => apart (here.trans same.symm), stored, passed⟩
    · obtain ⟨stored, passed⟩ := passes first (by simp)
      exact ⟨first.1, first.2, here, stored, passed⟩

/-- What a deletion leaves at a key. -/
theorem get?_deleteWhere (table : Table α) (test : Nat → α → Bool) (key : Nat) :
    (table.deleteWhere test).get? key = (table.get? key).filter fun value => !test key value := by
  cases found : table.get? key with
  | none =>
    rw [Option.filter_none]
    cases kept : (table.deleteWhere test).get? key with
    | none => rfl
    | some value =>
      have member := List.mem_of_mem_filter
        (((table.deleteWhere test).get?_eq_some_iff key value).mp kept)
      rw [(table.get?_eq_some_iff key value).mpr member] at found
      cases found
  | some value =>
    have member := (table.get?_eq_some_iff key value).mp found
    cases tested : test key value with
    | false =>
      have kept : (table.deleteWhere test).get? key = some value := by
        rw [get?_eq_some_iff]
        exact List.mem_filter.mpr ⟨member, by simp [tested]⟩
      rw [kept, Option.filter_some_pos (by simp [tested])]
    | true =>
      have gone : (table.deleteWhere test).get? key = none := by
        cases kept : (table.deleteWhere test).get? key with
        | none => rfl
        | some other =>
          have place := List.mem_filter.mp
            (((table.deleteWhere test).get?_eq_some_iff key other).mp kept)
          have same : other = value := by
            have read := (table.get?_eq_some_iff key other).mpr place.1
            rw [found] at read
            exact (Option.some.inj read).symm
          subst same
          simp [tested] at place
      rw [gone, Option.filter_some_neg (by simp [tested])]

theorem get?_of_first? {table : Table α} {test : Nat → α → Bool} {key : Nat} {value : α}
    (found : table.first? test = some (key, value)) :
    table.get? key = some value ∧ test key value = true :=
  ⟨(table.get?_eq_some_iff key value).mpr (List.mem_of_find?_eq_some found),
    List.find?_some (p := fun row : Nat × α => test row.1 row.2) found⟩

theorem first?_eq_none_iff {table : Table α} {test : Nat → α → Bool} :
    table.first? test = none ↔
      ∀ key value, table.get? key = some value → test key value = false := by
  rw [first?, List.find?_eq_none]
  constructor
  · intro missing key value stored
    exact Bool.eq_false_iff.mpr
      (missing (key, value) ((table.get?_eq_some_iff key value).mp stored))
  · rintro fails ⟨key, value⟩ member
    exact Bool.eq_false_iff.mp (fails key value ((table.get?_eq_some_iff key value).mpr member))

theorem newest?_eq_argmax (table : Table α) (stamp : α → Int) (test : Nat → α → Bool) :
    table.newest? stamp test =
      (table.rows.filter fun row => test row.1 row.2).argmax fun row => stamp row.2 := by
  unfold newest? List.argmax
  congr 1
  funext best row
  cases best with
  | none => rfl
  | some other => rfl

theorem get?_of_newest? {table : Table α} {stamp : α → Int} {test : Nat → α → Bool} {key : Nat}
    {value : α} (found : table.newest? stamp test = some (key, value)) :
    table.get? key = some value ∧ test key value = true := by
  rw [newest?_eq_argmax] at found
  obtain ⟨stored, passes⟩ := List.mem_filter.mp (List.argmax_mem found)
  exact ⟨(table.get?_eq_some_iff key value).mpr stored, passes⟩

theorem le_newest? {table : Table α} {stamp : α → Int} {test : Nat → α → Bool} {row : Nat × α}
    (found : table.newest? stamp test = some row) {key : Nat} {value : α}
    (stored : table.get? key = some value) (passes : test key value = true) :
    stamp value ≤ stamp row.2 := by
  rw [newest?_eq_argmax] at found
  exact List.le_of_mem_argmax (a := (key, value))
    (List.mem_filter.mpr ⟨(table.get?_eq_some_iff key value).mp stored, passes⟩) found

theorem newest?_eq_none {table : Table α} {stamp : α → Int} {test : Nat → α → Bool}
    (missing : table.newest? stamp test = none) {key : Nat} {value : α}
    (stored : table.get? key = some value) : test key value = false := by
  rw [newest?_eq_argmax, List.argmax_eq_none, List.filter_eq_nil_iff] at missing
  exact Bool.eq_false_iff.mpr
    (missing (key, value) ((table.get?_eq_some_iff key value).mp stored))

end Table

end ThreatScope.Library
