import Mathlib.Data.List.Basic
import Mathlib.Data.List.Nodup

/-!
# Dictionaries that keep the order of insertion

A dictionary is a list of keys with values. Setting a key that is there replaces its value
in place, and any other key is added at the end.

A fold over a stream of items that reads and sets one key at a time treats every key on its
own: what it leaves under a key is the fold over the items of that key (`read_foldl`).
-/

set_option autoImplicit false

namespace ThreatScope.Library

universe u v w

/-- Values under keys, in the order in which the keys were first set. -/
abbrev Dictionary (κ : Type u) (β : Type v) := List (κ × β)

namespace Dictionary

variable {κ : Type u} {β : Type v} {α : Type w} [DecidableEq κ]

/-- The value under a key. -/
def get? : Dictionary κ β → κ → Option β
  | [], _ => none
  | (other, value) :: rest, key => if other = key then some value else get? rest key

/-- Set the value under a key. -/
def set : Dictionary κ β → κ → β → Dictionary κ β
  | [], key, value => [(key, value)]
  | (other, old) :: rest, key, value =>
    if other = key then (other, value) :: rest else (other, old) :: set rest key value

@[simp] theorem get?_nil (key : κ) : get? ([] : Dictionary κ β) key = none := rfl

theorem get?_set (dictionary : Dictionary κ β) (key other : κ) (value : β) :
    (dictionary.set key value).get? other =
      if key = other then some value else dictionary.get? other := by
  induction dictionary with
  | nil => rfl
  | cons entry rest ih =>
    obtain ⟨place, old⟩ := entry
    unfold set
    by_cases here : place = key
    · rw [if_pos here, get?, get?, here]
      split <;> rfl
    · rw [if_neg here, get?, get?, ih]
      by_cases there : place = other
      · rw [if_pos there, if_pos there, if_neg fun same => here (there.trans same.symm)]
      · rw [if_neg there, if_neg there]

@[simp] theorem get?_set_self (dictionary : Dictionary κ β) (key : κ) (value : β) :
    (dictionary.set key value).get? key = some value := by
  rw [get?_set, if_pos rfl]

theorem get?_set_of_ne (dictionary : Dictionary κ β) {key other : κ} (value : β)
    (apart : key ≠ other) : (dictionary.set key value).get? other = dictionary.get? other := by
  rw [get?_set, if_neg apart]

theorem mem_keys_set {dictionary : Dictionary κ β} {key other : κ} {value : β} :
    other ∈ (dictionary.set key value).map Prod.fst ↔
      other = key ∨ other ∈ dictionary.map Prod.fst := by
  induction dictionary with
  | nil => simp [set]
  | cons entry rest ih =>
    obtain ⟨place, old⟩ := entry
    unfold set
    by_cases here : place = key
    · rw [if_pos here, List.map_cons, List.map_cons, List.mem_cons]
      constructor
      · exact .inr
      · rintro (rfl | member)
        · exact .inl here.symm
        · exact member
    · rw [if_neg here, List.map_cons, List.map_cons, List.mem_cons, List.mem_cons, ih]
      exact or_left_comm

theorem nodup_set {dictionary : Dictionary κ β} (distinct : (dictionary.map Prod.fst).Nodup)
    (key : κ) (value : β) : ((dictionary.set key value).map Prod.fst).Nodup := by
  induction dictionary with
  | nil => exact List.nodup_singleton key
  | cons entry rest ih =>
    obtain ⟨place, old⟩ := entry
    rw [List.map_cons, List.nodup_cons] at distinct
    unfold set
    by_cases here : place = key
    · rw [if_pos here, List.map_cons, List.nodup_cons]
      exact distinct
    · rw [if_neg here, List.map_cons, List.nodup_cons]
      refine ⟨fun member => ?_, ih distinct.2⟩
      rcases mem_keys_set.mp member with same | old
      · exact here same
      · exact distinct.1 old

theorem get?_eq_some_iff {dictionary : Dictionary κ β}
    (distinct : (dictionary.map Prod.fst).Nodup) {key : κ} {value : β} :
    dictionary.get? key = some value ↔ (key, value) ∈ dictionary := by
  induction dictionary with
  | nil => exact ⟨fun found => (by cases found), fun member => (by cases member)⟩
  | cons entry rest ih =>
    obtain ⟨place, old⟩ := entry
    rw [List.map_cons, List.nodup_cons] at distinct
    rw [get?, List.mem_cons, Prod.mk.injEq]
    by_cases here : place = key
    · subst here
      rw [if_pos rfl, Option.some.injEq]
      constructor
      · exact fun same => .inl ⟨rfl, same.symm⟩
      · rintro (⟨-, same⟩ | member)
        · exact same.symm
        · exact absurd (List.mem_map.mpr ⟨_, member, rfl⟩) distinct.1
    · rw [if_neg here, ih distinct.2]
      exact ⟨.inr, fun either => either.resolve_left fun same => here same.1.symm⟩

/-- **Every key on its own.** Where each item changes the reading under its own key alone,
the fold over all items leaves under a key the fold over the items of that key. -/
theorem read_foldl {σ : Type u} {γ : Type v} (read : σ → κ → γ) (holds : σ → Prop)
    {step : σ → α → σ} {key : α → κ} {change : γ → α → γ} (place : κ) (items : List α)
    (kept : ∀ item ∈ items, ∀ state, holds state → holds (step state item))
    (own : ∀ item ∈ items, ∀ state, holds state →
      read (step state item) (key item) = change (read state (key item)) item)
    (others : ∀ item ∈ items, ∀ state, holds state → ∀ other, key item ≠ other →
      read (step state item) other = read state other) :
    ∀ state, holds state → read (items.foldl step state) place =
      (items.filter fun item => decide (key item = place)).foldl change (read state place) := by
  induction items with
  | nil => exact fun _ _ => rfl
  | cons item rest ih =>
    intro state sound
    have here : item ∈ item :: rest := List.mem_cons_self ..
    rw [List.foldl_cons, ih (fun other member => kept other (List.mem_cons_of_mem _ member))
      (fun other member => own other (List.mem_cons_of_mem _ member))
      (fun other member => others other (List.mem_cons_of_mem _ member)) _
      (kept item here state sound)]
    by_cases same : key item = place
    · rw [List.filter_cons, if_pos (decide_eq_true same), List.foldl_cons, ← same,
        own item here state sound]
    · rw [List.filter_cons, if_neg (by simp [same]), others item here state sound place same]

end Dictionary

end ThreatScope.Library
