import ThreatScope.Library.RowInvariants

/-!
# A database session that flushes on demand

Between two flushes a session holds two views of the tables: the rows as the database
has them, and the rows as the program has written them. A query selects its rows by what
the database has, and hands out what the program has written. A flush, and a commit with
it, makes the first view the second.
-/

set_option autoImplicit false

namespace ThreatScope.Library

universe u v

/-- The tables as the database has them, and as the session has written them. -/
structure UnitOfWork (σ : Type u) where
  stored : σ
  live : σ

namespace UnitOfWork

variable {σ : Type u} {α : Type v}

/-- A session that has written nothing. -/
def start (store : σ) : UnitOfWork σ := ⟨store, store⟩

/-- Write what the session has changed. -/
def flush (work : UnitOfWork σ) : UnitOfWork σ := ⟨work.live, work.live⟩

/-- Change rows without flushing them. -/
def write (work : UnitOfWork σ) (change : σ → σ) : UnitOfWork σ :=
  { work with live := change work.live }

/-- The rows of a table that the database selects, as the session has them. -/
def query (work : UnitOfWork σ) (table : σ → Table α) (test : Nat → α → Bool) :
    List (Nat × α) :=
  ((table work.stored).rows.filter fun row => test row.1 row.2).filterMap
    fun row => ((table work.live).get? row.1).map fun value => (row.1, value)

@[simp] theorem stored_start (store : σ) : (start store).stored = store := rfl

@[simp] theorem live_start (store : σ) : (start store).live = store := rfl

@[simp] theorem stored_flush (work : UnitOfWork σ) : work.flush.stored = work.live := rfl

@[simp] theorem live_flush (work : UnitOfWork σ) : work.flush.live = work.live := rfl

@[simp] theorem stored_write (work : UnitOfWork σ) (change : σ → σ) :
    (work.write change).stored = work.stored := rfl

@[simp] theorem live_write (work : UnitOfWork σ) (change : σ → σ) :
    (work.write change).live = change work.live := rfl

/-- A selected row: the database's row satisfies the test, the session's is handed out. -/
theorem mem_query_iff {work : UnitOfWork σ} {table : σ → Table α} {test : Nat → α → Bool}
    {key : Nat} {value : α} :
    (key, value) ∈ work.query table test ↔
      (∃ row, (table work.stored).get? key = some row ∧ test key row = true) ∧
        (table work.live).get? key = some value := by
  simp only [query, List.mem_filterMap, List.mem_filter, Prod.exists, Option.map_eq_some_iff,
    Prod.mk.injEq, Table.get?_eq_some_iff]
  constructor
  · rintro ⟨other, row, ⟨member, selected⟩, live, found, rfl, rfl⟩
    exact ⟨⟨row, member, selected⟩, found⟩
  · rintro ⟨⟨row, member, selected⟩, found⟩
    exact ⟨key, row, ⟨member, selected⟩, value, found, rfl, rfl⟩

theorem nodup_query (work : UnitOfWork σ) (table : σ → Table α) (test : Nat → α → Bool) :
    ((work.query table test).map Prod.fst).Nodup := by
  have keys : List.Sublist ((work.query table test).map Prod.fst)
      ((table work.stored).rows.map Prod.fst) := by
    unfold query
    rw [List.map_filterMap]
    generalize (table work.stored).rows = rows
    induction rows with
    | nil => exact .slnil
    | cons row rest ih =>
      rw [List.filter_cons]
      split
      · rw [List.filterMap_cons]
        cases (table work.live).get? row.1 with
        | none => exact ih.cons _
        | some value => exact ih.cons_cons _
      · exact ih.cons _
  exact keys.nodup (table work.stored).keys_nodup

end UnitOfWork

/-! ## What two views agree on -/

/-- Two tables have the same keys, with the same readings under them. -/
def Agree {α β : Type} (read : α → β) (first second : Table α) : Prop :=
  ∀ key, (first.get? key).map read = (second.get? key).map read

namespace Agree

variable {α β : Type} {read : α → β} {first second third : Table α}

theorem refl (table : Table α) : Agree read table table := fun _ => rfl

theorem symm (agree : Agree read first second) : Agree read second first :=
  fun key => (agree key).symm

theorem trans (one : Agree read first second) (two : Agree read second third) :
    Agree read first third := fun key => (one key).trans (two key)

theorem of_rel (relation : α → α → Prop)
    (rows : ∀ key, Option.Rel relation (first.get? key) (second.get? key))
    (kept : ∀ old new, relation old new → read new = read old) : Agree read first second := by
  intro key
  have row := rows key
  revert row
  generalize first.get? key = old
  generalize second.get? key = new
  rintro row
  cases row with
  | none => rfl
  | some related => exact congrArg some (kept _ _ related).symm

theorem modify (table : Table α) {key : Nat} {change : α → α}
    (kept : ∀ value, read (change value) = read value) :
    Agree read table (table.modify key change) :=
  .of_rel (fun old new => read new = read old)
    (Table.rel_modify table (fun _ => rfl) fun value _ => kept value) fun _ _ same => same

theorem exists_second (agree : Agree read first second) {key : Nat} {value : α}
    (stored : first.get? key = some value) :
    ∃ other, second.get? key = some other ∧ read other = read value := by
  have row := agree key
  rw [stored, Option.map_some] at row
  obtain ⟨other, found, same⟩ := Option.map_eq_some_iff.mp row.symm
  exact ⟨other, found, same⟩

end Agree

/-! ## Unique columns -/

/-- No two rows have the same reading. -/
def Distinct {α β : Type} (read : α → β) (table : Table α) : Prop :=
  ∀ key value other row, table.get? key = some value → table.get? other = some row →
    read value = read row → key = other

namespace Distinct

variable {α β : Type} {read : α → β} {first second : Table α}

theorem empty : Distinct read (Table.empty : Table α) := by
  intro key value _ _ stored
  cases stored

theorem of_rows (distinct : Distinct read first)
    (rows : ∀ key new, second.get? key = some new →
      ∃ old, first.get? key = some old ∧ read new = read old) : Distinct read second := by
  intro key value other row stored alsoStored same
  obtain ⟨one, found, oneSame⟩ := rows key value stored
  obtain ⟨two, alsoFound, twoSame⟩ := rows other row alsoStored
  exact distinct key one other two found alsoFound (oneSame.symm.trans (same.trans twoSame))

theorem of_agree (distinct : Distinct read first) (agree : Agree read first second) :
    Distinct read second := by
  refine distinct.of_rows fun key new stored => ?_
  obtain ⟨old, found, same⟩ := agree.symm.exists_second stored
  exact ⟨old, found, same.symm⟩

theorem extend (distinct : Distinct read first) {fresh : Nat} {value : α}
    (added : second.get? fresh = some value)
    (unused : ∀ key row, first.get? key = some row → read row ≠ read value)
    (rows : ∀ key new, key ≠ fresh → second.get? key = some new →
      ∃ old, first.get? key = some old ∧ read new = read old) : Distinct read second := by
  have isFresh : ∀ key new, second.get? key = some new → read new = read value → key = fresh := by
    intro key new stored same
    by_contra apart
    obtain ⟨old, found, alike⟩ := rows key new apart stored
    exact unused key old found (alike.symm.trans same)
  intro key one other two stored alsoStored same
  by_cases here : key = fresh
  · subst here
    obtain rfl := Option.some.inj (stored.symm.trans added)
    exact (isFresh other two alsoStored same.symm).symm
  · by_cases alsoHere : other = fresh
    · subst alsoHere
      obtain rfl := Option.some.inj (alsoStored.symm.trans added)
      exact isFresh key one stored same
    · obtain ⟨first, found, firstSame⟩ := rows key one here stored
      obtain ⟨second, alsoFound, secondSame⟩ := rows other two alsoHere alsoStored
      exact distinct key first other second found alsoFound
        (firstSame.symm.trans (same.trans secondSame))

end Distinct

section Lookups

variable {σ : Type u} {α β : Type} {work : UnitOfWork σ} {table : σ → Table α}
  {read : α → β} {test : Nat → α → Bool}

theorem UnitOfWork.of_head?_eq_some (passes : β → Prop)
    (agree : Agree read (table work.stored) (table work.live))
    (asks : ∀ key value, test key value = true ↔ passes (read value)) {key : Nat} {value : α}
    (found : (work.query table test).head? = some (key, value)) :
    (table work.live).get? key = some value ∧ passes (read value) := by
  obtain ⟨⟨row, stored, passed⟩, live⟩ := UnitOfWork.mem_query_iff.mp (List.mem_of_head? found)
  obtain ⟨other, alsoLive, same⟩ := agree.exists_second stored
  obtain rfl := Option.some.inj (alsoLive.symm.trans live)
  refine ⟨live, ?_⟩
  rw [same]
  exact (asks key row).mp passed

theorem UnitOfWork.of_head?_eq_none (passes : β → Prop)
    (agree : Agree read (table work.stored) (table work.live))
    (asks : ∀ key value, test key value = true ↔ passes (read value))
    (missing : (work.query table test).head? = none) (key : Nat) (value : α)
    (live : (table work.live).get? key = some value) : ¬passes (read value) := by
  intro passed
  obtain ⟨row, stored, same⟩ := agree.symm.exists_second live
  have member : (key, value) ∈ work.query table test := by
    refine UnitOfWork.mem_query_iff.mpr ⟨⟨row, stored, (asks key row).mpr ?_⟩, live⟩
    rwa [same]
  rw [List.head?_eq_none_iff.mp missing] at member
  cases member

end Lookups

end ThreatScope.Library
