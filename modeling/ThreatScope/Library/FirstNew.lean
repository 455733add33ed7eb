import Mathlib.Data.List.Basic

/-!
# The first new items of a stream

A store that takes an item of a stream only if it has no item with the same key yet, and
takes no more than a limit. What it takes of a stream is the first item of every new key, up
to the limit (`firstNew`). Offered the same stream again, it takes nothing if and only if the
limit was not reached before the stream ran out of new keys (`firstNew_again_eq_nil_iff`).
-/

set_option autoImplicit false

namespace ThreatScope.Library

universe u v

variable {α : Type u} {κ : Type v} [DecidableEq κ] (key : α → κ)

/-- The first items of the keys that are not known, up to a limit. -/
def firstNew : Nat → List κ → List α → List α
  | 0, _, _ => []
  | _ + 1, _, [] => []
  | limit + 1, known, item :: rest =>
    if key item ∈ known then firstNew (limit + 1) known rest
    else item :: firstNew limit (known ++ [key item]) rest

variable {key}

@[simp] theorem firstNew_zero (known : List κ) (items : List α) :
    firstNew key 0 known items = [] := by
  cases items <;> rfl

@[simp] theorem firstNew_nil (limit : Nat) (known : List κ) :
    firstNew key limit known ([] : List α) = [] := by
  cases limit <;> rfl

theorem firstNew_cons_of_mem {known : List κ} {item : α} (old : key item ∈ known) (limit : Nat)
    (rest : List α) : firstNew key limit known (item :: rest) = firstNew key limit known rest := by
  cases limit with
  | zero => simp
  | succ limit => rw [firstNew, if_pos old]

theorem firstNew_cons_of_not_mem {known : List κ} {item : α} (new : key item ∉ known)
    (limit : Nat) (rest : List α) :
    firstNew key (limit + 1) known (item :: rest) =
      item :: firstNew key limit (known ++ [key item]) rest := by
  rw [firstNew, if_neg new]

theorem firstNew_eq_nil_iff {limit : Nat} (room : 0 < limit) {known : List κ} {items : List α} :
    firstNew key limit known items = [] ↔ ∀ item ∈ items, key item ∈ known := by
  induction items with
  | nil => simp
  | cons item rest ih =>
    by_cases old : key item ∈ known
    · rw [firstNew_cons_of_mem old, ih, List.forall_mem_cons]
      exact ⟨fun all => ⟨old, all⟩, And.right⟩
    · obtain ⟨smaller, rfl⟩ := Nat.exists_eq_succ_of_ne_zero (Nat.ne_of_gt room)
      rw [firstNew_cons_of_not_mem old, List.forall_mem_cons]
      exact ⟨fun none => (by cases none), fun all => absurd all.1 old⟩

theorem firstNew_filter {test : α → Bool} {limit : Nat} {known : List κ} {items : List α}
    (taken : ∀ item ∈ firstNew key limit known items, test item = true) :
    firstNew key limit known (items.filter test) = firstNew key limit known items := by
  induction items generalizing limit known with
  | nil => rfl
  | cons item rest ih =>
    by_cases old : key item ∈ known
    · rw [firstNew_cons_of_mem old] at taken ⊢
      rw [List.filter_cons]
      split
      · rw [firstNew_cons_of_mem old]
        exact ih taken
      · exact ih taken
    · cases limit with
      | zero => simp
      | succ limit =>
        rw [firstNew_cons_of_not_mem old] at taken ⊢
        rw [List.forall_mem_cons] at taken
        rw [List.filter_cons, if_pos taken.1, firstNew_cons_of_not_mem old, ih taken.2]

theorem mem_known_or_taken_iff {limit : Nat} {known : List κ} {items : List α} :
    (∀ item ∈ items, key item ∈ known ++ (firstNew key limit known items).map key) ↔
      (firstNew key (limit + 1) known items).length ≤ limit := by
  induction items generalizing limit known with
  | nil => simp
  | cons item rest ih =>
    by_cases old : key item ∈ known
    · rw [firstNew_cons_of_mem old, firstNew_cons_of_mem old, ← ih, List.forall_mem_cons]
      exact ⟨And.right, fun all => ⟨List.mem_append_left _ old, all⟩⟩
    · cases limit with
      | zero =>
        rw [firstNew_zero, List.map_nil, List.append_nil, firstNew_cons_of_not_mem old,
          List.forall_mem_cons]
        exact ⟨fun all => absurd all.1 old, fun short => absurd short (by simp)⟩
      | succ limit =>
        rw [firstNew_cons_of_not_mem old, firstNew_cons_of_not_mem old, List.length_cons,
          Nat.succ_le_succ_iff, ← ih, List.forall_mem_cons, List.map_cons, List.append_cons]
        refine ⟨And.right, fun all => ⟨?_, all⟩⟩
        exact List.mem_append_left _ (List.mem_append_right _ (List.mem_singleton.mpr rfl))

/-- **The same stream again** brings nothing new if and only if the limit cut off no new
key. -/
theorem firstNew_again_eq_nil_iff {limit : Nat} (room : 0 < limit) {known : List κ}
    {items : List α} :
    firstNew key limit (known ++ (firstNew key limit known items).map key) items = [] ↔
      (firstNew key (limit + 1) known items).length ≤ limit :=
  (firstNew_eq_nil_iff room).trans mem_known_or_taken_iff

end ThreatScope.Library
