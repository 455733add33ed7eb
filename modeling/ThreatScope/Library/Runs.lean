import Mathlib.Data.List.Induction

/-!
# Runs of a deterministic machine

A machine is a function `step` that takes a state and an input to the next
state. Everything a run does not decide itself (the clock, the caller, random
draws) is part of the input, so a run is a fold over a list of inputs and a
property of "every sequence of calls" quantifies over that list.

The trace of a run keeps each of its transitions. Two rules carry every result
about runs: a property of the past and the present state that one more step
preserves holds after every run (`run_induction`), and an invariant that every
allowed step preserves holds around every transition of a run whose transitions
are all allowed (`invariant_along_trace`).
-/

set_option autoImplicit false

namespace ThreatScope.Library

universe u v

/-- One transition of a run: the state before it, the input it consumes and the
state after it. -/
structure Transition (σ : Type u) (ι : Type v) where
  before : σ
  input : ι
  after : σ

variable {σ : Type u} {ι : Type v} (step : σ → ι → σ)

/-- The state a run ends in. -/
def final (start : σ) (inputs : List ι) : σ := inputs.foldl step start

/-- The transitions of a run, in order. -/
def trace : σ → List ι → List (Transition σ ι)
  | _, [] => []
  | state, input :: rest =>
    ⟨state, input, step state input⟩ :: trace (step state input) rest

@[simp] theorem final_nil (start : σ) : final step start [] = start := rfl

@[simp] theorem final_cons (start : σ) (input : ι) (rest : List ι) :
    final step start (input :: rest) = final step (step start input) rest := rfl

@[simp] theorem final_concat (start : σ) (inputs : List ι) (input : ι) :
    final step start (inputs ++ [input]) = step (final step start inputs) input := by
  simp only [final, List.foldl_append, List.foldl_cons, List.foldl_nil]

theorem trace_append (start : σ) (first second : List ι) :
    trace step start (first ++ second) =
      trace step start first ++ trace step (final step start first) second := by
  induction first generalizing start with
  | nil => rfl
  | cons input rest ih => simp only [List.cons_append, trace, final_cons, ih]

@[simp] theorem trace_concat (start : σ) (inputs : List ι) (input : ι) :
    trace step start (inputs ++ [input]) = trace step start inputs ++
      [⟨final step start inputs, input, step (final step start inputs) input⟩] := by
  rw [trace_append]
  rfl

/-- The last move of a run. -/
theorem mem_trace_concat (start : σ) (inputs : List ι) (input : ι) :
    ⟨final step start inputs, input, step (final step start inputs) input⟩ ∈
      trace step start (inputs ++ [input]) := by
  rw [trace_concat]
  exact List.mem_append_right _ (List.mem_singleton_self _)

theorem after_eq_of_mem_trace {start : σ} {inputs : List ι} {move : Transition σ ι}
    (member : move ∈ trace step start inputs) :
    move.after = step move.before move.input := by
  induction inputs generalizing start with
  | nil => cases member
  | cons input rest ih =>
    rcases List.mem_cons.mp member with rfl | later
    · rfl
    · exact ih later

theorem input_mem_of_mem_trace {start : σ} {inputs : List ι} {move : Transition σ ι}
    (member : move ∈ trace step start inputs) : move.input ∈ inputs := by
  induction inputs generalizing start with
  | nil => cases member
  | cons input rest ih =>
    rcases List.mem_cons.mp member with rfl | later
    · exact List.mem_cons_self ..
    · exact List.mem_cons_of_mem _ (ih later)

theorem map_input_trace (start : σ) (inputs : List ι) :
    (trace step start inputs).map Transition.input = inputs := by
  induction inputs generalizing start with
  | nil => rfl
  | cons input rest ih => rw [trace, List.map_cons, ih]

/-- A transition of a trace splits the run: the transitions before it are the trace
of the inputs before its own. -/
theorem exists_split_of_trace_eq {start : σ} {inputs : List ι} {past rest : List (Transition σ ι)}
    {move : Transition σ ι} (splits : trace step start inputs = past ++ move :: rest) :
    ∃ first input second, inputs = first ++ input :: second ∧ past = trace step start first ∧
      move = ⟨final step start first, input, step (final step start first) input⟩ := by
  induction inputs generalizing start past with
  | nil => simp [trace] at splits
  | cons input inputs ih =>
    rw [trace] at splits
    cases past with
    | nil =>
      obtain ⟨rfl, -⟩ := List.cons.inj splits
      exact ⟨[], input, inputs, rfl, rfl, rfl⟩
    | cons early past =>
      obtain ⟨rfl, later⟩ := List.cons.inj splits
      obtain ⟨first, next, second, rfl, rfl, rfl⟩ := ih later
      exact ⟨input :: first, next, second, rfl, rfl, rfl⟩

/-- **Induction on a run.** What holds of the empty past and the start, and
survives one more step, holds of the whole past and the final state. -/
theorem run_induction {start : σ} {motive : List (Transition σ ι) → σ → Prop}
    (empty : motive [] start)
    (next : ∀ past state input, motive past state →
      motive (past ++ [⟨state, input, step state input⟩]) (step state input))
    (inputs : List ι) : motive (trace step start inputs) (final step start inputs) := by
  induction inputs using List.reverseRecOn with
  | nil => exact empty
  | append_singleton inputs input ih =>
    rw [trace_concat, final_concat]
    exact next _ _ input ih

section Invariants

variable (invariant : σ → Prop) (allowed : Transition σ ι → Prop)
  (preserved : ∀ state input, invariant state →
    allowed ⟨state, input, step state input⟩ → invariant (step state input))
include preserved

/-- **An invariant of the allowed steps holds on both sides of every transition
of a run all of whose transitions are allowed.** -/
theorem invariant_along_trace {start : σ} (initially : invariant start) :
    ∀ {inputs : List ι}, (∀ move ∈ trace step start inputs, allowed move) →
      ∀ move ∈ trace step start inputs,
        invariant move.before ∧ invariant move.after
  | [], _, _, member => absurd member (List.not_mem_nil)
  | input :: rest, all, move, member => by
    have kept : invariant (step start input) :=
      preserved start input initially (all _ (List.mem_cons_self ..))
    rcases List.mem_cons.mp member with rfl | later
    · exact ⟨initially, kept⟩
    · exact invariant_along_trace kept
        (fun other place => all other (List.mem_cons_of_mem _ place)) move later

/-- An invariant that the allowed moves keep holds at the end of a run. -/
theorem invariant_final {start : σ} (initially : invariant start) {inputs : List ι}
    (all : ∀ move ∈ trace step start inputs, allowed move) :
    invariant (final step start inputs) := by
  induction inputs generalizing start with
  | nil => exact initially
  | cons input rest ih =>
    exact ih (preserved start input initially (all _ (List.mem_cons_self ..)))
      fun other place => all other (List.mem_cons_of_mem _ place)

end Invariants

/-- **Under an invariant that good transitions keep, all transitions of a run are good exactly
when all of them meet the condition that makes one good.** -/
theorem good_transitions_iff {invariant : σ → Prop} {good : Transition σ ι → Prop}
    {meets : σ → ι → Prop}
    (preserved : ∀ state input, invariant state → good ⟨state, input, step state input⟩ →
      invariant (step state input))
    (step_iff : ∀ state input, invariant state →
      (good ⟨state, input, step state input⟩ ↔ meets state input))
    {start : σ} (initially : invariant start) (inputs : List ι) :
    (∀ move ∈ trace step start inputs, good move) ↔
      ∀ move ∈ trace step start inputs, meets move.before move.input := by
  induction inputs generalizing start with
  | nil => simp [trace]
  | cons input rest ih =>
    rw [trace, List.forall_mem_cons, List.forall_mem_cons, step_iff start input initially]
    refine and_congr_right fun met => ih ?_
    exact preserved start input initially ((step_iff start input initially).mpr met)

end ThreatScope.Library
