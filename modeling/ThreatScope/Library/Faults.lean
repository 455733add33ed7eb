/-!
# Scripts whose steps may raise

A script changes a state step by step, and a step may raise. What the script has changed stays
when it raises, so a handler finds the state as the failed step left it. Which steps raise is
an input: what holds of a script for all of them holds at every point of failure.
-/

set_option autoImplicit false

namespace ThreatScope.Library

universe u

/-- A script that changes a state and may end early. -/
abbrev Script (ε σ : Type u) := EStateM ε σ

namespace Script

variable {ε σ : Type u}

/-- A step that raises and changes nothing, or takes effect. -/
def attempt (fails : Bool) (error : ε) (effect : σ → σ) : Script ε σ PUnit := fun state =>
  if fails then .error error state else .ok ⟨⟩ (effect state)

/-- A step that leaves something behind when it raises. -/
def attemptTorn (fails : Bool) (error : ε) (torn effect : σ → σ) : Script ε σ PUnit := fun state =>
  if fails then .error error (torn state) else .ok ⟨⟩ (effect state)

/-- A script, and the handler of its exceptions. -/
def onError (body handler : Script ε σ PUnit) : Script ε σ PUnit := fun state =>
  match body state with
  | .ok _ after => .ok ⟨⟩ after
  | .error _ after => handler after

/-- A script that runs when a condition holds of the state. -/
def onlyWhen (test : σ → Bool) (body : Script ε σ PUnit) : Script ε σ PUnit := fun state =>
  if test state then body state else .ok ⟨⟩ state

/-- A change of the state that is made however a script ends. -/
def always (body : Script ε σ PUnit) (effect : σ → σ) : Script ε σ PUnit := fun state =>
  match body state with
  | .ok _ after => .ok ⟨⟩ (effect after)
  | .error error after => .error error (effect after)

/-! What each construct does in a state. With the steps that raise given, `simp` runs a script. -/

variable (fails : Bool) (error : ε) (effect torn : σ → σ) (state : σ)
  (body handler first second : Script ε σ PUnit) (test : σ → Bool)

@[simp] theorem bind_apply : (do first; second) state =
    match first state with
    | .ok _ after => second after
    | .error error after => .error error after := by
  change EStateM.bind first (fun _ => second) state = _
  unfold EStateM.bind
  cases first state <;> rfl

@[simp] theorem throw_apply : (throw error : Script ε σ PUnit) state = .error error state := rfl

@[simp] theorem modify_apply : (modify effect : Script ε σ PUnit) state = .ok ⟨⟩ (effect state) :=
  rfl

@[simp] theorem attempt_apply : attempt fails error effect state =
    if fails then .error error state else .ok ⟨⟩ (effect state) := rfl

@[simp] theorem attemptTorn_apply : attemptTorn fails error torn effect state =
    if fails then .error error (torn state) else .ok ⟨⟩ (effect state) := rfl

@[simp] theorem onError_apply : onError body handler state =
    match body state with
    | .ok _ after => .ok ⟨⟩ after
    | .error _ after => handler after := rfl

@[simp] theorem onlyWhen_apply : onlyWhen test body state =
    if test state then body state else .ok ⟨⟩ state := rfl

@[simp] theorem always_apply : always body effect state =
    match body state with
    | .ok _ after => .ok ⟨⟩ (effect after)
    | .error error after => .error error (effect after) := rfl

end Script

end ThreatScope.Library
