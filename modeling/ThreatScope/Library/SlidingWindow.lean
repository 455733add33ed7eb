import Mathlib.Algebra.Order.Ring.Int
import Mathlib.Data.Int.Order.Basic
import Mathlib.Data.List.Basic
import Mathlib.Data.List.Induction
import Mathlib.Data.List.Perm.Subperm
import Mathlib.Data.Nat.Basic
import Mathlib.Order.Basic
import Mathlib.Tactic.Common

/-!
# Sliding windows over a stream in time order

A window is kept while a stream is read: from its front the items are dropped that are too
far from the newest one, which is then added at the end. When the stream is in order, the
window after an item holds exactly the items so far that are close enough to it
(`windowOf_concat`).

The last window that passes a test is the window of the last item at which the window
passed (`lastWindow_eq_some_iff`). Windows that passed before are forgotten.
-/

set_option autoImplicit false

namespace ThreatScope.Library

universe u v

variable {α : Type u} {β : Type v} (stamp : α → Int) (width : Int)

/-- An item is too far from the latest one. -/
def tooOld (latest item : α) : Bool := decide (width < stamp latest - stamp item)

/-- The window after one more item. -/
def slide (window : List α) (latest : α) : List α :=
  window.dropWhile (tooOld stamp width latest) ++ [latest]

/-- The window after a stream. -/
def windowOf (stream : List α) : List α := stream.foldl (slide stamp width) []

/-- The stream is in order. -/
def InOrder (stream : List α) : Prop :=
  stream.Pairwise fun first second => stamp first ≤ stamp second

variable {stamp width}

theorem dropWhile_eq_filter {window : List α} (ordered : InOrder stamp window) (latest : α) :
    window.dropWhile (tooOld stamp width latest) =
      window.filter fun item => !tooOld stamp width latest item := by
  induction window with
  | nil => rfl
  | cons item rest ih =>
    unfold InOrder at ordered
    rw [List.pairwise_cons] at ordered
    rw [List.dropWhile_cons, List.filter_cons]
    cases old : tooOld stamp width latest item with
    | true => simpa using ih ordered.2
    | false =>
      have rest_kept : rest.filter (fun item => !tooOld stamp width latest item) = rest := by
        rw [List.filter_eq_self]
        intro other member
        have later := ordered.1 other member
        unfold tooOld at old ⊢
        simp only [decide_eq_false_iff_not, Bool.not_eq_true'] at old ⊢
        omega
      simp [rest_kept]

/-- **The window of a stream in order** holds the items that are close to the last one. -/
theorem windowOf_concat {stream : List α} {latest : α}
    (ordered : InOrder stamp (stream ++ [latest])) :
    windowOf stamp width (stream ++ [latest]) =
      (stream.filter fun item => !tooOld stamp width latest item) ++ [latest] := by
  induction stream using List.reverseRecOn generalizing latest with
  | nil => rfl
  | append_singleton stream previous ih =>
    have pairs := ordered
    unfold InOrder at pairs
    rw [List.pairwise_append] at pairs
    have before : InOrder stamp (stream ++ [previous]) := pairs.1
    have step : windowOf stamp width (stream ++ [previous] ++ [latest]) =
        slide stamp width (windowOf stamp width (stream ++ [previous])) latest := by
      unfold windowOf
      rw [List.foldl_append, List.foldl_cons, List.foldl_nil]
    have kept : InOrder stamp ((stream.filter fun item => !tooOld stamp width previous item) ++
        [previous]) := by
      refine before.sublist ?_
      exact List.filter_sublist.append (List.Sublist.refl _)
    rw [step, ih before, slide, dropWhile_eq_filter kept, List.filter_append, List.filter_append,
      List.filter_filter]
    refine congrArg (fun front => front ++ _ ++ [latest]) ?_
    refine List.filter_congr fun item member => ?_
    have gap : stamp previous ≤ stamp latest := pairs.2.2 previous (by simp) latest (by simp)
    unfold tooOld
    rw [Bool.and_eq_left_iff_imp]
    simp only [Bool.not_eq_true', decide_eq_false_iff_not]
    omega

/-! ## The last window that passes -/

section Last

variable (stamp width) (verdict : List α → α → Option β)

/-- The window, and the last verdict on a window so far. -/
def judge (state : List α × Option β) (latest : α) : List α × Option β :=
  let window := slide stamp width state.1 latest
  (window, (verdict window latest).or state.2)

/-- The last verdict on a window of a stream. -/
def lastVerdict (stream : List α) : Option β :=
  (stream.foldl (judge stamp width verdict) ([], none)).2

variable {stamp width verdict}

/-- The verdicts do not change which window is kept. -/
theorem foldl_judge_fst (stream : List α) (window : List α) (result : Option β) :
    (stream.foldl (judge stamp width verdict) (window, result)).1 =
      stream.foldl (slide stamp width) window := by
  induction stream generalizing window result with
  | nil => rfl
  | cons item rest ih => exact ih _ _

theorem lastVerdict_concat (stream : List α) (latest : α) :
    lastVerdict stamp width verdict (stream ++ [latest]) =
      (verdict (windowOf stamp width (stream ++ [latest])) latest).or
        (lastVerdict stamp width verdict stream) := by
  unfold lastVerdict windowOf
  rw [List.foldl_append, List.foldl_append, List.foldl_cons, List.foldl_cons, List.foldl_nil,
    List.foldl_nil, judge, foldl_judge_fst]

/-- **The last verdict** is the one at the last item where there is one. -/
theorem lastVerdict_eq_some_iff {stream : List α} {result : β} :
    lastVerdict stamp width verdict stream = some result ↔
      ∃ before latest after, stream = before ++ latest :: after ∧
        verdict (windowOf stamp width (before ++ [latest])) latest = some result ∧
        ∀ others item rest, after = others ++ item :: rest →
          verdict (windowOf stamp width (before ++ latest :: others ++ [item])) item = none := by
  induction stream using List.reverseRecOn with
  | nil =>
    constructor
    · intro found
      cases found
    · rintro ⟨before, latest, after, split, -⟩
      exact absurd split.symm (by simp)
  | append_singleton stream last ih =>
    rw [lastVerdict_concat]
    cases final : verdict (windowOf stamp width (stream ++ [last])) last with
    | some value =>
      rw [Option.some_or]
      constructor
      · intro same
        cases same
        exact ⟨stream, last, [], rfl, final, fun others item rest split => by simp at split⟩
      · rintro ⟨before, latest, after, split, passed, quiet⟩
        rcases List.eq_nil_or_concat' after with rfl | ⟨after, item, rfl⟩
        · obtain ⟨rfl, same⟩ := List.append_inj' split rfl
          cases same
          exact final.symm.trans passed
        · have none := quiet after item [] (by simp)
          rw [← List.cons_append, ← List.append_assoc] at split
          obtain ⟨rfl, same⟩ := List.append_inj' split rfl
          cases same
          rw [none] at final
          cases final
    | none =>
      rw [Option.none_or, ih]
      constructor
      · rintro ⟨before, latest, after, rfl, passed, quiet⟩
        refine ⟨before, latest, after ++ [last], by simp, passed, fun others item rest split => ?_⟩
        rcases List.eq_nil_or_concat' rest with rfl | ⟨rest, end_, rfl⟩
        · obtain ⟨rfl, same⟩ := List.append_inj' split rfl
          cases same
          exact final
        · refine quiet others item rest ?_
          rw [← List.cons_append, ← List.append_assoc] at split
          exact (List.append_inj' split rfl).1
      · rintro ⟨before, latest, after, split, passed, quiet⟩
        rcases List.eq_nil_or_concat' after with rfl | ⟨after, stop, rfl⟩
        · obtain ⟨rfl, same⟩ := List.append_inj' split rfl
          cases same
          rw [passed] at final
          cases final
        · rw [← List.cons_append, ← List.append_assoc] at split
          obtain ⟨rfl, -⟩ := List.append_inj' split rfl
          refine ⟨before, latest, after, rfl, passed, fun others item rest inside => ?_⟩
          subst inside
          exact quiet others item (rest ++ [stop]) (by simp)

end Last

end ThreatScope.Library
