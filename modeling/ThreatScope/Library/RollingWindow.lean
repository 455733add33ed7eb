import ThreatScope.Library.SlidingWindow

/-!
# The best rolling window

A scan over items in order of time opens a window at each of them: the items from there on
that are no further than the width. It keeps the largest window so far that passes a test.

When more items never fail a test that fewer pass, no set of items within the width that
passes is larger than the window kept (`length_le_widest`): such a set lies in the window
that its first item opens. The window kept is itself such a set, or there is none
(`isWindow_widest`).
-/

set_option autoImplicit false

namespace ThreatScope.Library

universe u

variable {α : Type u} (stamp : α → Int) (width : Int) (passes : List α → Bool)

/-- The items from a given one on that lie in the window it opens. -/
def windowAt (start : α) (rest : List α) : List α :=
  (start :: rest).filter fun item => stamp item - stamp start ≤ width

/-- The largest window that passes, the first of those, over items in order of time. -/
def widest : List α → List α → List α
  | [], best => best
  | start :: rest, best =>
    let window := windowAt stamp width start rest
    widest rest (if passes window ∧ best.length < window.length then window else best)

/-- Items that lie within the width and pass the test. -/
structure IsWindow (items window : List α) : Prop where
  nonempty : window ≠ []
  among : ∀ item ∈ window, item ∈ items
  span : ∀ one ∈ window, ∀ other ∈ window, stamp other - stamp one ≤ width
  passed : passes window = true

variable {stamp width passes}

theorem IsWindow.mono {items others window : List α}
    (found : IsWindow stamp width passes items window)
    (subset : ∀ item ∈ items, item ∈ others) : IsWindow stamp width passes others window :=
  ⟨found.nonempty, fun item member => subset item (found.among item member), found.span,
    found.passed⟩

theorem mem_windowAt_iff {start item : α} {rest : List α} :
    item ∈ windowAt stamp width start rest ↔
      item ∈ start :: rest ∧ stamp item - stamp start ≤ width := by
  unfold windowAt
  rw [List.mem_filter, decide_eq_true_eq]

/-! ## The window kept is one -/

theorem isWindow_windowAt {start : α} {rest : List α} (ordered : InOrder stamp (start :: rest))
    (nonempty : windowAt stamp width start rest ≠ [])
    (passed : passes (windowAt stamp width start rest) = true) :
    IsWindow stamp width passes (start :: rest) (windowAt stamp width start rest) where
  nonempty := nonempty
  among := fun item member => (mem_windowAt_iff.mp member).1
  span := by
    intro one oneIn other otherIn
    have within := (mem_windowAt_iff.mp otherIn).2
    have later : stamp start ≤ stamp one := by
      rcases List.mem_cons.mp (mem_windowAt_iff.mp oneIn).1 with rfl | member
      · exact le_rfl
      · exact (List.pairwise_cons.mp ordered).1 one member
    omega
  passed := passed

variable (stamp width passes) in
theorem isWindow_widest {all items best : List α} (ordered : InOrder stamp items)
    (subset : ∀ item ∈ items, item ∈ all)
    (begins : best = [] ∨ IsWindow stamp width passes all best) :
    widest stamp width passes items best = [] ∨
      IsWindow stamp width passes all (widest stamp width passes items best) := by
  induction items generalizing best with
  | nil => exact begins
  | cons start rest ih =>
    refine ih (List.pairwise_cons.mp ordered).2
      (fun item member => subset item (List.mem_cons_of_mem _ member)) ?_
    split
    · rename_i better
      have some := List.ne_nil_of_length_pos (Nat.zero_lt_of_lt better.2)
      exact .inr ((isWindow_windowAt ordered some better.1).mono subset)
    · exact begins

theorem widest_sublist {all items best : List α} (part : items.Sublist all)
    (begins : best.Sublist all) : (widest stamp width passes items best).Sublist all := by
  induction items generalizing best with
  | nil => exact begins
  | cons start rest ih =>
    refine ih ((List.sublist_cons_self start rest).trans part) ?_
    split
    · exact List.filter_sublist.trans part
    · exact begins

/-! ## No window is larger -/

theorem length_le_length_widest (items best : List α) :
    best.length ≤ (widest stamp width passes items best).length := by
  induction items generalizing best with
  | nil => exact le_rfl
  | cons start rest ih =>
    refine le_trans ?_ (ih _)
    split
    · rename_i better
      exact better.2.le
    · exact le_rfl

/-- **No window is larger** than the one the scan keeps. -/
theorem length_le_widest
    (monotone : ∀ few many : List α, few ⊆ many → passes few = true → passes many = true)
    {items window : List α} (found : IsWindow stamp width passes items window)
    (distinct : window.Nodup) (best : List α) :
    window.length ≤ (widest stamp width passes items best).length := by
  induction items generalizing best with
  | nil =>
    obtain ⟨item, member⟩ := List.exists_mem_of_ne_nil _ found.nonempty
    exact absurd (found.among item member) List.not_mem_nil
  | cons start rest ih =>
    by_cases begins : start ∈ window
    · -- The window lies in the one that its first item opens.
      have inside : window ⊆ windowAt stamp width start rest := fun item member =>
        mem_windowAt_iff.mpr ⟨found.among item member, found.span start begins item member⟩
      have smaller := (List.Nodup.subperm distinct inside).length_le
      have passed := monotone _ _ inside found.passed
      refine le_trans ?_ (length_le_length_widest rest _)
      split
      · exact smaller
      · rename_i worse
        exact smaller.trans (not_lt.mp fun larger => worse ⟨passed, larger⟩)
    · refine ih ⟨found.nonempty, fun item member => ?_, found.span, found.passed⟩ _
      rcases List.mem_cons.mp (found.among item member) with rfl | behind
      · exact absurd member begins
      · exact behind

end ThreatScope.Library
