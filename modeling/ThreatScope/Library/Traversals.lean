import Mathlib.Data.List.Forall2
import Mathlib.Logic.Basic

/-!
# Computations that may fail

How to take a successful computation in `Except` apart: a bind succeeds exactly
when both halves do, and a computation that returns has returned that value.
-/

set_option autoImplicit false

namespace ThreatScope.Library

universe u v

variable {ε : Type u} {α β : Type v}

/-- A bind succeeds exactly when its first half does and its second half does on
the value of the first. -/
theorem bind_eq_ok_iff {first : Except ε α} {second : α → Except ε β} {result : β} :
    (first >>= second) = .ok result ↔ ∃ value, first = .ok value ∧ second value = .ok result := by
  cases first with
  | error error =>
    constructor
    · intro wrong
      cases wrong
    · rintro ⟨value, wrong, -⟩
      cases wrong
  | ok value =>
    refine ⟨fun same => ⟨value, rfl, same⟩, ?_⟩
    rintro ⟨other, same, result⟩
    cases same
    exact result

theorem exists_bind_eq_ok_iff {first : Except ε α} {second : α → Except ε β} :
    (∃ result, (first >>= second) = .ok result) ↔
      ∃ value, first = .ok value ∧ ∃ result, second value = .ok result := by
  constructor
  · rintro ⟨result, succeeds⟩
    obtain ⟨value, one, other⟩ := bind_eq_ok_iff.mp succeeds
    exact ⟨value, one, result, other⟩
  · rintro ⟨value, one, result, other⟩
    exact ⟨result, bind_eq_ok_iff.mpr ⟨value, one, other⟩⟩

theorem exists_bind_eq_ok_and_iff {first : Except ε α} {second : α → Except ε β} {good : β → Prop} :
    (∃ result, (first >>= second) = .ok result ∧ good result) ↔
      ∃ value, first = .ok value ∧ ∃ result, second value = .ok result ∧ good result := by
  constructor
  · rintro ⟨result, succeeds, here⟩
    obtain ⟨value, one, other⟩ := bind_eq_ok_iff.mp succeeds
    exact ⟨value, one, result, other, here⟩
  · rintro ⟨value, one, result, other, here⟩
    exact ⟨result, bind_eq_ok_iff.mpr ⟨value, one, other⟩, here⟩

theorem pure_eq_ok_iff {value result : α} :
    (pure value : Except ε α) = .ok result ↔ value = result :=
  ⟨fun same => Except.ok.inj same, fun same => congrArg Except.ok same⟩

/-!
## Running a computation that may fail over a list

`List.mapM` in `Except` stops at the first failure. It returns exactly when every item does,
and then the results belong to the items one by one.
-/

/-! ## Readers without a reason -/

section Readers

variable {α β : Type u} {read : α → Option β} {items : List α} {results : List β}

/-- **A list is read as a whole** when each of its items is. -/
theorem mapM_eq_some_iff : items.mapM read = some results ↔ items.map read = results.map some := by
  induction items generalizing results with
  | nil =>
    rw [List.mapM_nil, List.map_nil, List.nil_eq, List.map_eq_nil_iff]
    exact ⟨fun same => (Option.some.inj same).symm, fun same => congrArg some same.symm⟩
  | cons item rest ih =>
    rw [List.mapM_cons]
    cases here : read item with
    | none =>
      refine iff_of_false (nomatch ·) ?_
      intro same
      rw [List.map_cons, here] at same
      cases results with
      | nil => cases same
      | cons result others => cases (List.cons.inj same).1
    | some result =>
      simp only [Option.bind_eq_bind, Option.bind_some]
      rw [Option.bind_eq_some_iff, List.map_cons, here]
      constructor
      · rintro ⟨others, later, same⟩
        obtain rfl := Option.some.inj same
        rw [ih.mp later, List.map_cons]
      · intro same
        cases results with
        | nil => cases same
        | cons other others =>
          obtain ⟨first, later⟩ := List.cons.inj same
          obtain rfl := Option.some.inj first
          exact ⟨others, ih.mpr later, rfl⟩

theorem mem_of_mapM_eq_some (found : items.mapM read = some results) {result : β}
    (member : result ∈ results) : ∃ item ∈ items, read item = some result := by
  have inside : some result ∈ items.map read := by
    rw [mapM_eq_some_iff.mp found]
    exact List.mem_map_of_mem member
  exact List.mem_map.mp inside

theorem exists_of_mapM_eq_some (found : items.mapM read = some results) {item : α}
    (member : item ∈ items) : ∃ result ∈ results, read item = some result := by
  have inside : read item ∈ results.map some := by
    rw [← mapM_eq_some_iff.mp found]
    exact List.mem_map_of_mem member
  obtain ⟨result, listed, same⟩ := List.mem_map.mp inside
  exact ⟨result, listed, same.symm⟩

theorem length_of_mapM_eq_some (found : items.mapM read = some results) :
    results.length = items.length := by
  have lengths := congrArg List.length (mapM_eq_some_iff.mp found)
  rw [List.length_map, List.length_map] at lengths
  exact lengths.symm

end Readers

/-! ## Readers that name their failure -/

variable {ε α β : Type u} {run : α → Except ε β} {items : List α} {results : List β}

/-- **The results belong to the items**, one by one. -/
theorem mapM_eq_ok_iff :
    items.mapM run = .ok results ↔
      List.Forall₂ (fun item result => run item = .ok result) items results := by
  induction items generalizing results with
  | nil =>
    rw [List.mapM_nil, List.forall₂_nil_left_iff]
    exact ⟨fun same => (Except.ok.inj same).symm, fun same => congrArg Except.ok same.symm⟩
  | cons item rest ih =>
    rw [List.mapM_cons]
    cases first : run item with
    | error error =>
      refine iff_of_false (nomatch ·) ?_
      rintro (_ | ⟨same, -⟩)
      cases first.symm.trans same
    | ok result =>
      cases others : rest.mapM run with
      | error error =>
        refine iff_of_false ?_ ?_
        · intro same
          simp only [bind, Except.bind] at same
          cases same
        · rintro (_ | ⟨-, paired⟩)
          cases others.symm.trans (ih.mpr paired)
      | ok rows =>
        simp only [bind, Except.bind, pure, Except.pure, Except.ok.injEq]
        constructor
        · rintro rfl
          exact .cons first (ih.mp others)
        · rintro (_ | ⟨same, paired⟩)
          obtain rfl := Except.ok.inj (first.symm.trans same)
          obtain rfl := Except.ok.inj (others.symm.trans (ih.mpr paired))
          rfl

/-- **It returns exactly when every item does.** -/
theorem exists_mapM_eq_ok_iff :
    (∃ results, items.mapM run = .ok results) ↔
      ∀ item ∈ items, ∃ result, run item = .ok result := by
  simp only [mapM_eq_ok_iff]
  constructor
  · rintro ⟨results, paired⟩ item inside
    induction paired with
    | nil => cases inside
    | cons same _ ih =>
      rcases List.mem_cons.mp inside with rfl | later
      · exact ⟨_, same⟩
      · exact ih later
  · intro each
    induction items with
    | nil => exact ⟨[], .nil⟩
    | cons item rest ih =>
      obtain ⟨result, same⟩ := each item List.mem_cons_self
      obtain ⟨results, paired⟩ := ih fun other later => each other (List.mem_cons_of_mem _ later)
      exact ⟨result :: results, .cons same paired⟩

theorem mem_mapM_iff (returned : items.mapM run = .ok results) {result : β} :
    result ∈ results ↔ ∃ item ∈ items, run item = .ok result := by
  have paired := mapM_eq_ok_iff.mp returned
  clear returned
  induction paired with
  | nil => simp
  | cons same _ ih => simp [ih, same, eq_comm]

theorem map_eq_of_mapM {γ : Type u} {read : β → γ} {key : α → γ}
    (kept : ∀ item result, run item = .ok result → read result = key item)
    (returned : items.mapM run = .ok results) : results.map read = items.map key := by
  have paired := mapM_eq_ok_iff.mp returned
  clear returned
  induction paired with
  | nil => rfl
  | cons same _ ih => rw [List.map_cons, List.map_cons, kept _ _ same, ih]

theorem mapM_eq_ok {read : α → β} (each : ∀ item ∈ items, run item = .ok (read item)) :
    items.mapM run = .ok (items.map read) := by
  rw [mapM_eq_ok_iff, List.forall₂_map_right_iff, List.forall₂_same]
  exact each

theorem mapM_cons_eq_error_iff {item : α} {error : ε} :
    (item :: items).mapM run = .error error ↔
      run item = .error error ∨
        (∃ result, run item = .ok result) ∧ items.mapM run = .error error := by
  rw [List.mapM_cons]
  cases first : run item with
  | error wrong => simp [bind, Except.bind]
  | ok result =>
    cases items.mapM run with
    | error wrong => simp [bind, Except.bind]
    | ok results => simp [bind, Except.bind, pure, Except.pure]

theorem mapM_error_congr {γ : Type u} {other : α → Except ε γ}
    (same : ∀ item ∈ items, ∀ error, run item = .error error ↔ other item = .error error)
    (error : ε) : items.mapM run = .error error ↔ items.mapM other = .error error := by
  have returns {δ : Type u} (x : Except ε δ) :
      (∃ result, x = .ok result) ↔ ∀ error, x ≠ .error error := by
    cases x with
    | error wrong => exact iff_of_false (by simp) fun none_fails => none_fails wrong rfl
    | ok result => exact iff_of_true ⟨result, rfl⟩ fun _ => (nomatch ·)
  induction items with
  | nil => exact iff_of_false (nomatch ·) (nomatch ·)
  | cons item rest ih =>
    have here := same item List.mem_cons_self
    have later := ih fun next inside => same next (List.mem_cons_of_mem _ inside)
    rw [mapM_cons_eq_error_iff, mapM_cons_eq_error_iff, returns, returns]
    exact or_congr (here error)
      (and_congr (forall_congr' fun wrong => not_congr (here wrong)) later)

theorem exists_of_toBool {x : Except ε α} (returns : x.toBool = true) :
    ∃ result, x = .ok result := by
  cases x with
  | error error => cases returns
  | ok result => exact ⟨result, rfl⟩

end ThreatScope.Library
