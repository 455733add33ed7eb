import ThreatScope.Library.SlidingWindow

/-!
# Fixed windows of time

Time is cut into windows of one width, each from a multiple of the width on. An interval of
that width, both ends included, meets at most two windows, which are next to each other. So
where each window holds at most so many events, each such interval holds at most twice as
many (`countP_interval_le`).
-/

set_option autoImplicit false

namespace ThreatScope.Library

universe u

/-- The start of the window of an instant. -/
def windowStart (width now : Int) : Int := now / width * width

theorem countP_le_add {α : Type u} (list : List α) {part first second : α → Bool}
    (covered : ∀ item, part item = true → first item = true ∨ second item = true) :
    list.countP part ≤ list.countP first + list.countP second := by
  induction list with
  | nil => exact Nat.zero_le _
  | cons item rest ih =>
    rw [List.countP_cons, List.countP_cons, List.countP_cons]
    by_cases inside : part item = true
    · rw [if_pos inside]
      rcases covered item inside with one | other
      · rw [if_pos one]
        omega
      · rw [if_pos other]
        omega
    · rw [if_neg inside]
      omega

section Windows

variable {width : Int} (positive : 0 < width)
include positive

theorem windowStart_le (now : Int) : windowStart width now ≤ now :=
  Int.ediv_mul_le now positive.ne'

theorem lt_windowStart_add (now : Int) : now < windowStart width now + width :=
  (Int.lt_ediv_add_one_mul_self now positive).trans_eq (add_one_mul _ _)

theorem windowStart_lt_of_le {now later : Int} (past : windowStart width now + width ≤ later) :
    windowStart width now < windowStart width later := by
  have after := lt_windowStart_add positive later
  have next : now / width < later / width := by
    rw [← Int.add_one_le_iff, Int.le_ediv_iff_mul_le positive, add_one_mul]
    exact past
  exact Int.mul_lt_mul_of_pos_right next positive

theorem windowStart_of_mem_interval {start now : Int} (from_start : start ≤ now)
    (to_end : now ≤ start + width) :
    windowStart width now = windowStart width start ∨
      windowStart width now = windowStart width start + width := by
  have lower : start / width ≤ now / width := Int.ediv_le_ediv positive from_start
  have upper : now / width ≤ start / width + 1 := by
    rw [← Int.add_mul_ediv_right _ _ positive.ne', one_mul]
    exact Int.ediv_le_ediv positive to_end
  unfold windowStart
  rcases lower.eq_or_lt with same | later
  · exact .inl (by rw [same])
  · right
    rw [show now / width = start / width + 1 by omega, add_one_mul]

/-- **Two windows bound an interval.** -/
theorem countP_interval_le {most : Nat} {times : List Int}
    (bounded : ∀ bucket, times.countP (fun now => decide (windowStart width now = bucket)) ≤ most)
    (start : Int) :
    times.countP (fun now => decide (start ≤ now ∧ now ≤ start + width)) ≤ 2 * most := by
  have covered : times.countP (fun now => decide (start ≤ now ∧ now ≤ start + width)) ≤
      times.countP (fun now => decide (windowStart width now = windowStart width start)) +
        times.countP fun now =>
          decide (windowStart width now = windowStart width start + width) := by
    refine countP_le_add times fun now inside => ?_
    rw [decide_eq_true_eq] at inside
    rw [decide_eq_true_eq, decide_eq_true_eq]
    exact windowStart_of_mem_interval positive inside.1 inside.2
  have first := bounded (windowStart width start)
  have second := bounded (windowStart width start + width)
  omega

end Windows

end ThreatScope.Library
