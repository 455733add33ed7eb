import ThreatScope.Soar.EngineSteps

/-!
# What a run leaves alone

No action changes the policies, and no step of the engine changes the playbook or the idempotency
key of its execution.
-/

set_option autoImplicit false

namespace ThreatScope.Soar

open Library AccessControl

variable {ρ : Type} (env : SoarPlatform ρ)

/-! ## Actions keep the policies -/

section Policies

/-- An action that leaves the policies alone when it succeeds. -/
def KeepsPolicies (store : Store ρ) (result : Except Failure (LocalOutcome ρ)) : Prop :=
  ∀ outcome, result = .ok outcome → outcome.store.policies = store.policies

variable {env} {store : Store ρ}

theorem keepsPolicies_error (failure : Failure) : KeepsPolicies store (.error failure) :=
  fun _ wrong => nomatch wrong

theorem keepsPolicies_ok {outcome : LocalOutcome ρ}
    (same : outcome.store.policies = store.policies) : KeepsPolicies store (.ok outcome) := by
  intro other equal
  cases equal
  exact same

theorem keepsPolicies_bind {α : Type} {first : Except Failure α}
    {second : α → Except Failure (LocalOutcome ρ)}
    (rest : ∀ value, KeepsPolicies store (second value)) :
    KeepsPolicies store (first >>= second) := by
  intro outcome equal
  obtain ⟨value, -, equal⟩ := bind_eq_ok_iff.mp equal
  exact rest value outcome equal

theorem changeCase_policies (target : Option (Nat × IncidentCase)) (field : String)
    (previous : IncidentCase → Json) (write : IncidentCase → Except Failure IncidentCase) :
    KeepsPolicies store (changeCase store target field previous write) :=
  keepsPolicies_bind fun _ => keepsPolicies_bind fun _ => keepsPolicies_ok rfl

theorem createIncidentCase_policies (context : DispatchContext) :
    KeepsPolicies store (createIncidentCase env store context) := by
  unfold createIncidentCase
  dsimp only
  split
  · exact keepsPolicies_bind fun _ => keepsPolicies_ok rfl
  · exact keepsPolicies_bind fun _ => keepsPolicies_ok rfl

theorem createCaseTask_policies (context : DispatchContext) (displayName : String)
    (target : Option (Nat × IncidentCase)) :
    KeepsPolicies store (createCaseTask env store context displayName target) := by
  refine keepsPolicies_bind fun row => ?_
  dsimp only
  split
  · exact keepsPolicies_ok rfl
  · exact keepsPolicies_ok rfl

theorem linkEvidence_policies (context : DispatchContext) (action : ActionDefinition)
    (target : Option (Nat × IncidentCase)) :
    KeepsPolicies store (linkEvidence env store context action target) := by
  refine keepsPolicies_bind fun row => keepsPolicies_bind fun source => ?_
  dsimp only
  split <;> exact keepsPolicies_ok (by dsimp only; split <;> rfl)

theorem addCaseComment_policies (context : DispatchContext) (target : Option (Nat × IncidentCase)) :
    KeepsPolicies store (addCaseComment env store context target) :=
  keepsPolicies_bind fun _ => keepsPolicies_ok rfl

theorem cancelCaseTask_policies (context : DispatchContext) :
    KeepsPolicies store (cancelCaseTask env store context) :=
  keepsPolicies_bind fun _ => keepsPolicies_bind fun _ => keepsPolicies_ok rfl

theorem reviewAlert_policies (context : DispatchContext) (reviewing : Bool) :
    KeepsPolicies store (reviewAlert env store context reviewing) :=
  keepsPolicies_bind fun _ => keepsPolicies_bind fun _ => keepsPolicies_ok rfl

theorem cancelRemediationTask_policies (context : DispatchContext) :
    KeepsPolicies store (cancelRemediationTask env store context) :=
  keepsPolicies_bind fun _ => keepsPolicies_bind fun _ => keepsPolicies_ok rfl

theorem foreignAction_policies (key : ActionKey) (context : DispatchContext) :
    KeepsPolicies store (foreignAction env key store context) :=
  keepsPolicies_bind fun _ => keepsPolicies_ok rfl

theorem assignVulnerability_policies (context : DispatchContext)
    (target : Nat × VulnerabilityRecord) :
    (assignVulnerability env store context target).store.policies = store.policies := by
  unfold assignVulnerability
  dsimp only
  split <;> rfl

theorem vulnerabilityAction_policies (key : ActionKey) (context : DispatchContext) :
    KeepsPolicies store (vulnerabilityAction env key store context) := by
  refine keepsPolicies_bind fun source => keepsPolicies_bind fun target => ?_
  split
  · exact keepsPolicies_ok (assignVulnerability_policies context target)
  · exact keepsPolicies_ok (assignVulnerability_policies context target)
  · exact keepsPolicies_bind fun _ => keepsPolicies_ok rfl
  · exact keepsPolicies_bind fun _ => keepsPolicies_bind fun _ => keepsPolicies_bind fun _ =>
      keepsPolicies_ok rfl
  · exact foreignAction_policies key context

theorem changeUser_policies (key : ActionKey) (context : DispatchContext)
    (target : Option (Nat × UserAccount)) :
    KeepsPolicies store (changeUser key store context target) := by
  refine keepsPolicies_bind fun row => ?_
  dsimp only
  split
  · split
    · exact keepsPolicies_error _
    split
    · exact keepsPolicies_error _
    · exact keepsPolicies_ok rfl
  · exact keepsPolicies_ok rfl
  · split
    · exact keepsPolicies_error _
    · exact keepsPolicies_ok rfl

theorem sensitiveAction_policies (key : ActionKey) (context : DispatchContext) :
    KeepsPolicies store (sensitiveAction env key store context) := by
  unfold sensitiveAction
  split
  · exact keepsPolicies_error _
  refine keepsPolicies_bind fun user => ?_
  split
  · refine keepsPolicies_bind fun _ => keepsPolicies_bind fun row => ?_
    dsimp only
    split
    · exact keepsPolicies_error _
    · exact keepsPolicies_ok rfl
  · exact changeUser_policies key context _

theorem localAction_policies (action : ActionDefinition) (context : DispatchContext) :
    KeepsPolicies store (localAction env action store context) := by
  refine keepsPolicies_bind fun target => ?_
  split
  all_goals first
    | with_reducible exact createIncidentCase_policies context
    | with_reducible exact changeCase_policies target _ _ _
    | with_reducible exact createCaseTask_policies context _ target
    | with_reducible exact linkEvidence_policies context action target
    | with_reducible exact vulnerabilityAction_policies _ context
    | with_reducible exact sensitiveAction_policies _ context
    | with_reducible exact foreignAction_policies _ context
    | with_reducible exact keepsPolicies_error _
    | with_reducible exact addCaseComment_policies context target
    | with_reducible exact cancelCaseTask_policies context
    | with_reducible exact reviewAlert_policies context _
    | with_reducible exact cancelRemediationTask_policies context

/-- **A call of the dispatcher keeps the policies.** -/
theorem dispatch_policies {action : ActionDefinition} {context : DispatchContext}
    {outcome : DispatchOutcome ρ} (done : dispatch env action store context = .ok outcome) :
    outcome.store.policies = store.policies := by
  unfold dispatch at done
  split at done
  · cases done
    rfl
  split at done
  · split at done
    · cases done
      rfl
    · cases done
  split at done
  · cases done
    rfl
  split at done
  · rename_i result acted
    cases done
    exact localAction_policies action context result acted
  · cases done

/-- A turn that leaves some policies. -/
def Turn.HasPolicies (policies : List SoarActionPolicy) : Turn ρ → Prop
  | .stop reply => reply.work.store.policies = policies
  | .next work _ => work.store.policies = policies

variable {policies : List SoarActionPolicy} {context : RunContext}

theorem abortTurn_policies {saved : Work ρ} (same : saved.store.policies = policies)
    (failure : Failure) (calls : List (DispatchCall ρ)) :
    (abortTurn saved failure calls).HasPolicies policies := by
  cases failure <;> exact same

theorem recordStep_policies {saved work : Work ρ} (before : saved.store.policies = policies)
    (same : work.store.policies = policies) (position : Nat) (output : Dict) (status : StepStatus)
    (route : Json) (violation : Option String) (calls : List (DispatchCall ρ)) :
    (recordStep env saved work position output status route violation calls).HasPolicies
      policies := by
  unfold recordStep
  split
  · exact abortTurn_policies before _ _
  split
  · exact abortTurn_policies before _ _
  · exact abortTurn_policies before _ _
  · dsimp only
    split <;> exact same

/-- A step that halts leaves the store. -/
theorem store_of_planHalt {work result : Work ρ} {position : Nat} {step : Dict}
    (planned : planStep env context work position step = .ok (.halt result)) :
    result.store = work.store := by
  have approved : ∀ {action config approvalType after approval},
      pendingApproval env context work position action config approvalType =
        .ok (after, approval) → after.store = work.store := by
    intro action config approvalType after approval asked
    rcases pendingApproval_ok env asked with ⟨rfl, -⟩ | ⟨-, -, rfl⟩ <;> rfl
  unfold planStep at planned
  split at planned
  · cases planned
  dsimp only at planned
  split at planned
  · cases planned
  split at planned
  · unfold planEnd at planned
    split at planned
    · cases planned
    split at planned <;> cases planned
    rfl
  · unfold planCondition at planned
    split at planned
    · cases planned
    split at planned <;> cases planned
  · split at planned
    · cases planned
    · rename_i asked
      cases planned
      exact approved asked
  · split at planned
    · cases planned
    · rename_i asked
      cases planned
      unfold awaitInput at asked
      split at asked
      · cases asked
        rfl
      · split at asked <;> cases asked
        rfl
  · split at planned
    · cases planned
    · rename_i asked
      cases planned
      unfold awaitDelay at asked
      split at asked <;> cases asked
      rfl
  · unfold planAction at planned
    split at planned
    · cases planned
    · cases planned
    · dsimp only at planned
      split at planned
      · cases planned
      split at planned
      · cases planned
      split at planned
      · cases planned
      rename_i asked
      split at planned <;> cases planned
      exact approved asked

theorem takeStep_policies {saved work : Work ρ} (before : saved.store.policies = policies)
    (same : work.store.policies = policies) (position : Nat) (key : String) (step : Dict) :
    (takeStep env context saved work position key step).HasPolicies policies := by
  unfold takeStep
  split
  · exact abortTurn_policies before _ _
  · rename_i result planned
    show result.store.policies = policies
    rw [store_of_planHalt planned]
    exact same
  · exact same
  · exact recordStep_policies before same _ _ _ _ _ _
  · unfold dispatchStep
    dsimp only
    split
    · exact abortTurn_policies before _ _
    · rename_i outcome done
      have left : outcome.store.policies = policies := (dispatch_policies done).trans same
      refine recordStep_policies ?_ left _ _ _ _ _ _
      split
      · exact left
      · exact before

theorem runTurn_policies {saved work : Work ρ} (before : saved.store.policies = policies)
    (same : work.store.policies = policies) (byKey : List (String × Dict)) (key : String) :
    (runTurn env context byKey saved work key).HasPolicies policies := by
  unfold runTurn
  split
  · exact same
  split
  · exact before
  rename_i other record position _
  dsimp only
  split
  · exact same
  · exact @takeStep_policies ρ env policies context saved ⟨other, work.store⟩ before same _ _ _

/-- **A run keeps the policies**, by induction on the turns it may still take. -/
theorem runLoop_policies (byKey : List (String × Dict)) (turns : Nat) :
    ∀ {saved work : Work ρ} {calls : List (DispatchCall ρ)}, saved.store.policies = policies →
      work.store.policies = policies →
      (runLoop env context byKey turns saved work calls).work.store.policies = policies := by
  induction turns with
  | zero => intro saved work calls _ same; exact same
  | succ turns ih =>
    intro saved work calls before same
    unfold runLoop
    split
    · exact same
    rename_i key _
    have turn := @runTurn_policies ρ env policies context saved work before same byKey key
    split
    · rename_i reply stopped
      rw [stopped] at turn
      exact turn
    · rename_i next more onward
      rw [onward] at turn
      exact ih turn turn

/-- A run of the engine leaves the policies. -/
theorem runExecution_policies (work : Work ρ) :
    (runExecution env context work).work.store.policies = work.store.policies := by
  unfold runExecution
  split
  · rfl
  split
  · rfl
  split
  · rfl
  · exact runLoop_policies _ 50 rfl rfl

end Policies

/-! ## A run keeps what identifies an execution -/

section Identity

variable {env} {quiet : Prop} {execution other : SoarExecution}

theorem EngineStep.identity (step : EngineStep env quiet execution other) :
    other.playbookId = execution.playbookId ∧
      other.idempotencyKey = execution.idempotencyKey := by
  cases step with
  | fail =>
    simp only [SoarExecution.fail]
    split <;> exact ⟨rfl, rfl⟩
  | _ => exact ⟨rfl, rfl⟩

theorem EngineSteps.identity (steps : EngineSteps env quiet execution other) :
    other.playbookId = execution.playbookId ∧
      other.idempotencyKey = execution.idempotencyKey := by
  induction steps with
  | refl => exact ⟨rfl, rfl⟩
  | tail _ step ih =>
    obtain ⟨playbook, key⟩ := EngineStep.identity step
    exact ⟨playbook.trans ih.1, key.trans ih.2⟩

end Identity

end ThreatScope.Soar
