import ThreatScope.Soar.Consistency
import ThreatScope.Soar.RunFrames
import ThreatScope.Soar.Triggers

/-!
# Isolation of trigger rules

What an evaluation does about a rule is what it would do about the rule alone, as long as it gets
there: an execution that another rule creates changes nothing that a rule looks at
(`suppression_after`, `ruleExecution_after`). It gets to the end exactly when no creation raises,
and it never gets to the hundred and first rule (`evaluateTriggers_isolated_iff`).
-/

set_option autoImplicit false

namespace ThreatScope.Soar

open Library AccessControl

variable {ρ : Type} (env : SoarPlatform ρ)

/-! ## What a creation changes -/

/-- An execution of a playbook with an idempotency key. -/
def Known (executions : Table SoarExecution) (playbookId : Nat) (idempotencyKey : String) : Prop :=
  ∃ key row, executions.get? key = some row ∧ row.playbookId = playbookId ∧
    row.idempotencyKey = idempotencyKey

theorem known_iff (executions : Table SoarExecution) (playbookId : Nat) (idempotencyKey : String) :
    (executions.first? fun _ execution => execution.playbookId == playbookId &&
      execution.idempotencyKey == idempotencyKey).isSome = true ↔
      Known executions playbookId idempotencyKey := by
  constructor
  · intro found
    obtain ⟨⟨key, row⟩, found⟩ := Option.isSome_iff_exists.mp found
    obtain ⟨stored, passes⟩ := Table.get?_of_first? found
    simp only [Bool.and_eq_true, beq_iff_eq] at passes
    exact ⟨key, row, stored, passes.1, passes.2⟩
  · rintro ⟨key, row, stored, rfl, rfl⟩
    rw [Option.isSome_iff_ne_none]
    intro none
    simpa using Table.first?_eq_none_iff.mp none key row stored

section Creation

variable {env} {request : Request} {account : UserAccount} {payload : TriggerRequest}
  {db : Database ρ} {ruleId : Nat} {rule : SoarTriggerRule} {execution : SoarExecution}

theorem ruleExecution_identity
    (made : ruleExecution env db request payload ruleId rule = .ok execution) :
    execution.playbookId = rule.playbookId ∧
      execution.idempotencyKey = triggerFingerprint env payload ruleId := by
  unfold ruleExecution at made
  split at made
  · cases made
  unfold newExecution at made
  obtain ⟨definition, -, made⟩ := bind_eq_ok_iff.mp made
  obtain ⟨inputContext, -, made⟩ := bind_eq_ok_iff.mp made
  obtain ⟨variableState, -, made⟩ := bind_eq_ok_iff.mp made
  obtain ⟨start, -, made⟩ := bind_eq_ok_iff.mp made
  cases made
  exact ⟨rfl, rfl⟩

theorem ruleCreation_eq (made : ruleExecution env db request payload ruleId rule = .ok execution)
    (new : ¬ Known db.executions rule.playbookId
      (triggerFingerprint env payload ruleId)) :
    ruleCreation env db request account payload ruleId rule =
      if rule.automaticLocal = false then
        ⟨{ db with executions := db.executions.insert execution }, none, []⟩
      else onExecution { db with executions := db.executions.insert execution }
        db.executions.nextKey
        (runExecution env (request.context account db.executions.nextKey)) := by
  rw [← known_iff] at new
  unfold ruleExecution at made
  unfold ruleCreation createExecution
  cases found : db.playbooks.get? rule.playbookId with
  | none =>
    rw [found] at made
    cases made
  | some playbook =>
    rw [found] at made
    dsimp only at made ⊢
    rw [if_neg (by simpa [rulePayload] using new), made]
    cases rule.automaticLocal <;> rfl

/-- What a creation leaves besides the new execution. -/
structure Creates (db after : Database ρ) (execution : SoarExecution) : Prop where
  playbooks : after.playbooks = db.playbooks
  policies : after.store.policies = db.store.policies
  known : ∀ playbookId idempotencyKey,
    Known after.executions playbookId idempotencyKey ↔
      Known db.executions playbookId idempotencyKey ∨
        playbookId = execution.playbookId ∧ idempotencyKey = execution.idempotencyKey

theorem known_of_added {executions after : Table SoarExecution} {left : SoarExecution}
    (new : after.get? executions.nextKey = some left)
    (playbook : left.playbookId = execution.playbookId)
    (named : left.idempotencyKey = execution.idempotencyKey)
    (old : ∀ key, key ≠ executions.nextKey → after.get? key = executions.get? key)
    (playbookId : Nat) (idempotencyKey : String) :
    Known after playbookId idempotencyKey ↔ Known executions playbookId idempotencyKey ∨
      playbookId = execution.playbookId ∧ idempotencyKey = execution.idempotencyKey := by
  constructor
  · rintro ⟨key, row, stored, rfl, rfl⟩
    by_cases here : key = executions.nextKey
    · rw [here, new] at stored
      obtain rfl := Option.some.inj stored
      exact .inr ⟨playbook, named⟩
    · rw [old key here] at stored
      exact .inl ⟨key, row, stored, rfl, rfl⟩
  · rintro (⟨key, row, stored, rfl, rfl⟩ | ⟨rfl, rfl⟩)
    · have here := ne_of_lt (Table.lt_nextKey_of_get? stored)
      exact ⟨key, row, (old key here).trans stored, rfl, rfl⟩
    · exact ⟨_, left, new, playbook, named⟩

/-- **A creation that commits its row adds one execution and keeps the policies.** -/
theorem ruleCreation_creates
    (made : ruleExecution env db request payload ruleId rule = .ok execution)
    (new : ¬ Known db.executions rule.playbookId
      (triggerFingerprint env payload ruleId)) :
    Creates db
      (ruleCreation env db request account payload ruleId rule).db
      execution := by
  rw [ruleCreation_eq made new]
  split
  · refine ⟨rfl, rfl, known_of_added (Table.get?_insert_nextKey ..) rfl rfl ?_⟩
    exact fun key other => Table.get?_insert_of_ne _ _ other
  · have attempts : execution.FirstAttempts := by
      unfold ruleExecution at made
      split at made
      · cases made
      · exact (newExecution_consistent made).attempts
    have steps := (@runExecution_steps ρ env
      (request.context account db.executions.nextKey) False ⟨execution, db.store⟩
      attempts fun wrong => wrong.elim).1
    obtain ⟨playbook, named⟩ := EngineSteps.identity steps
    rw [onExecution, Table.get?_insert_nextKey]
    refine ⟨rfl, runExecution_policies _, known_of_added ?_ playbook named ?_⟩
    · rw [Table.get?_modify_self, Table.get?_insert_nextKey]
      rfl
    · intro key other
      rw [Table.get?_modify_of_ne _ _ other, Table.get?_insert_of_ne _ _ other]

end Creation

/-! ## What a rule looks at -/

/-- A state of the loop after some rules: their executions are the only new ones. -/
structure After (payload : TriggerRequest) (state later : TriggerState ρ) (handled : List Nat) :
    Prop where
  playbooks : later.db.playbooks = state.db.playbooks
  policies : later.db.store.policies = state.db.store.policies
  known : ∀ playbookId idempotencyKey,
    (∀ id ∈ handled, idempotencyKey ≠ triggerFingerprint env payload id) →
      (Known later.db.executions playbookId idempotencyKey ↔
        Known state.db.executions playbookId idempotencyKey)
  origins : ∀ test : TriggerOrigin → Bool, (∀ origin, test origin = true →
    origin.ruleId ∉ handled) → later.origins.filter test = state.origins.filter test

/-- A rule that is none of some others. -/
def IsOther (payload : TriggerRequest) (handled : List Nat) (ruleId : Nat) : Prop :=
  ∀ id ∈ handled, ruleId ≠ id ∧
    triggerFingerprint env payload ruleId ≠ triggerFingerprint env payload id

section Looks

variable {env} {request : Request} {account : UserAccount} {payload : TriggerRequest}
  {state later : TriggerState ρ} {handled : List Nat} {ruleId : Nat} {rule : SoarTriggerRule}

theorem After.refl (state : TriggerState ρ) : After env payload state state [] :=
  ⟨rfl, rfl, fun _ _ _ => .rfl, fun _ _ => rfl⟩

theorem After.pass (after : After env payload state later handled) (ruleId : Nat) :
    After env payload state later (handled ++ [ruleId]) where
  playbooks := after.playbooks
  policies := after.policies
  known := fun playbookId idempotencyKey other => after.known playbookId idempotencyKey
    fun id member => other id (List.mem_append_left _ member)
  origins := fun test other => after.origins test fun origin passes member =>
    other origin passes (List.mem_append_left _ member)

theorem After.create {db : Database ρ} {execution : SoarExecution} {origin : TriggerOrigin}
    (after : After env payload state later handled) (creates : Creates later.db db execution)
    (named : execution.idempotencyKey = triggerFingerprint env payload origin.ruleId) :
    After env payload state ⟨db, later.origins ++ [origin]⟩
      (handled ++ [origin.ruleId]) where
  playbooks := creates.playbooks.trans after.playbooks
  policies := creates.policies.trans after.policies
  known := by
    intro playbookId idempotencyKey other
    rw [creates.known, after.known playbookId idempotencyKey
      fun id member => other id (List.mem_append_left _ member)]
    refine or_iff_left ?_
    rintro ⟨-, same⟩
    exact other origin.ruleId (by simp) (same.trans named)
  origins := by
    intro test other
    have skipped : test origin = false := by
      rw [Bool.eq_false_iff]
      exact fun passes => other origin passes (by simp)
    rw [List.filter_append, List.filter_cons_of_neg (by simp [skipped]), List.filter_nil,
      List.append_nil]
    exact after.origins test fun origin passes member =>
      other origin passes (List.mem_append_left _ member)

/-- **Other executions do not suppress a rule.** -/
theorem suppression_after (after : After env payload state later handled)
    (other : IsOther env payload handled ruleId) (now : Instant) :
    suppression env later payload now ruleId rule =
      suppression env state payload now ruleId rule := by
  have mine : ∀ test : TriggerOrigin → Bool,
      later.origins.filter (fun origin => origin.ruleId == ruleId && test origin) =
        state.origins.filter fun origin => origin.ruleId == ruleId && test origin := by
    intro test
    refine after.origins _ fun origin passes member => ?_
    simp only [Bool.and_eq_true, beq_iff_eq] at passes
    exact (other _ member).1 passes.1.symm
  have recent : ∀ test : TriggerOrigin → Bool,
      later.origins.any (fun origin => origin.ruleId == ruleId && test origin) =
        state.origins.any fun origin => origin.ruleId == ruleId && test origin := by
    intro test
    have whole : ∀ (origins : List TriggerOrigin) (passes : TriggerOrigin → Bool),
        origins.any passes = (origins.filter passes).any fun _ => true := by
      intro origins passes
      rw [List.any_filter]
      simp only [Bool.and_true]
    rw [whole, mine, ← whole]
  have duplicate : (later.db.executions.first? fun _ execution =>
      execution.playbookId == rule.playbookId &&
        execution.idempotencyKey == triggerFingerprint env payload ruleId).isSome =
      (state.db.executions.first? fun _ execution =>
        execution.playbookId == rule.playbookId &&
          execution.idempotencyKey == triggerFingerprint env payload ruleId).isSome := by
    rw [Bool.eq_iff_iff, known_iff, known_iff]
    exact after.known _ _ fun id member => (other id member).2
  unfold suppression
  rw [duplicate, recent, mine]

theorem policyMaps_of_policies {store other : Store ρ} (same : other.policies = store.policies) :
    other.policyMaps = store.policyMaps := by
  simp only [Store.policyMaps, Store.policy?, same]

/-- **Other executions do not change the row that is created for a rule.** -/
theorem ruleExecution_after (after : After env payload state later handled) :
    ruleExecution env later.db request payload ruleId rule =
      ruleExecution env state.db request payload ruleId rule := by
  unfold ruleExecution
  rw [after.playbooks]
  cases state.db.playbooks.get? rule.playbookId with
  | none => rfl
  | some playbook =>
    dsimp only
    unfold newExecution runnableDefinition
    rw [policyMaps_of_policies after.policies]

end Looks

/-! ## The loop -/

/-- A rule that matches and is not suppressed. -/
def isDue (state : TriggerState ρ) (payload : TriggerRequest) (now : Instant)
    (ruleId : Nat) (rule : SoarTriggerRule) : Bool :=
  verdict env payload rule == some true &&
    (suppression env state payload now ruleId rule).isNone

/-- What a state does about a rule; nothing when no row can be created. -/
def effectOf (state : TriggerState ρ) (request : Request) (payload : TriggerRequest)
    (ruleId : Nat) (rule : SoarTriggerRule) : Option RuleEffect :=
  match verdict env payload rule with
  | none => some .failed
  | some false => some .unmatched
  | some true =>
    match suppression env state payload request.now ruleId rule with
    | some effect => some effect
    | none =>
      match ruleExecution env state.db request payload ruleId rule with
      | .ok execution => some (.created execution)
      | .error _ => none

/-- The runs of the automatic executions return, each on what the creations before it left. -/
def RunsReturn (state : TriggerState ρ) (request : Request) (account : UserAccount)
    (payload : TriggerRequest) : List (Nat × SoarTriggerRule) → Database ρ → Prop
  | [], _ => True
  | (ruleId, rule) :: rest, db =>
    if isDue env state payload request.now ruleId rule then
      (rule.automaticLocal = true →
        (ruleCreation env db request account payload ruleId rule).failure = none) ∧
      RunsReturn state request account payload rest
        (ruleCreation env db request account payload ruleId rule).db
    else RunsReturn state request account payload rest db

section Loop

variable {env} {request : Request} {account : UserAccount} {payload : TriggerRequest}

/-- A run that is not finished, stored or not. -/
structure Unfinished (evaluation : Evaluation ρ) : Prop where
  run : evaluation.run.status = .running
  stored : ∀ run, evaluation.stored = some run → run.status = .running

/-- An exception: no finished run is stored. -/
structure Raised (reply : TriggerReply ρ) : Prop where
  failure : reply.failure ≠ none
  run : ∀ run, reply.run = some run → run.status = .running

theorem suppression_cases (state : TriggerState ρ) (now : Instant) (ruleId : Nat)
    (rule : SoarTriggerRule) :
    suppression env state payload now ruleId rule = some .duplicate ∨
      suppression env state payload now ruleId rule = some .cooling ∨
      suppression env state payload now ruleId rule = none ∧
        ¬ Known state.db.executions rule.playbookId
          (triggerFingerprint env payload ruleId) := by
  unfold suppression
  split
  · exact .inl rfl
  rename_i new
  rw [known_iff] at new
  split
  · exact .inr (.inl rfl)
  split
  · exact .inr (.inl rfl)
  · exact .inr (.inr ⟨rfl, new⟩)

/-- What the body of the loop does about a rule. -/
inductive RuleTurn (request : Request) (account : UserAccount) (payload : TriggerRequest)
    (ruleId : Nat) (rule : SoarTriggerRule) (evaluation : Evaluation ρ) :
    Except (TriggerReply ρ) (Evaluation ρ) → Prop where
  | passed {next : Evaluation ρ} {effect : RuleEffect}
      (idle : isDue env evaluation.state payload request.now ruleId rule = false)
      (done : effectOf env evaluation.state request payload ruleId rule = some effect)
      (effects : next.effects = evaluation.effects ++ [(ruleId, effect)])
      (state : next.state = evaluation.state) (unfinished : Unfinished next) :
      RuleTurn request account payload ruleId rule evaluation (.ok next)
  | created {next : Evaluation ρ} {execution : SoarExecution}
      (due : isDue env evaluation.state payload request.now ruleId rule = true)
      (made : ruleExecution env evaluation.state.db request payload ruleId rule =
        .ok execution)
      (creates : Creates evaluation.state.db next.state.db execution)
      (returned : (ruleCreation env evaluation.state.db request account payload ruleId
        rule).failure = none)
      (db : next.state.db = (ruleCreation env evaluation.state.db request
        account payload ruleId rule).db)
      (effects : next.effects = evaluation.effects ++ [(ruleId, .created execution)])
      (origins : next.state.origins = evaluation.state.origins ++
        [⟨evaluation.state.db.executions.nextKey, ruleId, request.now⟩])
      (unfinished : Unfinished next) :
      RuleTurn request account payload ruleId rule evaluation (.ok next)
  | refused {reply : TriggerReply ρ}
      (due : isDue env evaluation.state payload request.now ruleId rule = true)
      (unmade : ∀ execution, ruleExecution env evaluation.state.db request payload
        ruleId rule ≠ .ok execution)
      (effects : reply.effects = evaluation.effects) (raised : Raised reply) :
      RuleTurn request account payload ruleId rule evaluation (.error reply)
  | stopped {reply : TriggerReply ρ} {execution : SoarExecution}
      (due : isDue env evaluation.state payload request.now ruleId rule = true)
      (made : ruleExecution env evaluation.state.db request payload ruleId rule =
        .ok execution) (automatic : rule.automaticLocal = true)
      (failed : (ruleCreation env evaluation.state.db request account payload ruleId
        rule).failure ≠ none)
      (effects : reply.effects = evaluation.effects ++ [(ruleId, .created execution)])
      (raised : Raised reply) :
      RuleTurn request account payload ruleId rule evaluation (.error reply)

/-- **One rule of the loop.** -/
theorem evaluateRule_turn (ruleId : Nat) (rule : SoarTriggerRule) {evaluation : Evaluation ρ}
    (unfinished : Unfinished evaluation) :
    @RuleTurn ρ env request account payload ruleId rule evaluation
      (evaluateRule env request account payload ruleId rule evaluation) := by
  obtain ⟨running, stored⟩ := unfinished
  unfold evaluateRule
  dsimp only
  cases judged : verdict env payload rule with
  | none =>
    exact .passed (by simp [isDue, judged]) (by rw [effectOf, judged]) rfl rfl ⟨running, stored⟩
  | some matched =>
    cases matched with
    | false =>
      exact .passed (by simp [isDue, judged]) (by rw [effectOf, judged]) rfl rfl
        ⟨running, stored⟩
    | true =>
      dsimp only [Evaluation.count]
      rcases @suppression_cases ρ env payload evaluation.state request.now ruleId rule with
        found | found | ⟨found, new⟩
      · rw [found]
        exact .passed (by simp [isDue, judged, found])
          (by rw [effectOf, judged]; dsimp only; rw [found]) rfl rfl ⟨running, stored⟩
      · rw [found]
        exact .passed (by simp [isDue, judged, found])
          (by rw [effectOf, judged]; dsimp only; rw [found]) rfl rfl ⟨running, stored⟩
      · rw [found]
        have due : isDue env evaluation.state payload request.now ruleId rule = true := by
          simp [isDue, judged, found]
        dsimp only
        unfold createForRule
        dsimp only
        cases made : ruleExecution env evaluation.state.db request payload ruleId
            rule with
        | error failure =>
          refine .refused due (fun execution equal => ?_) rfl ⟨by simp [Evaluation.raise],
            stored⟩
          rw [made] at equal
          cases equal
        | ok execution =>
          have creates := @ruleCreation_creates ρ env request account payload
            evaluation.state.db ruleId rule execution made new
          dsimp only
          cases returned : (ruleCreation env evaluation.state.db request account
              payload ruleId rule).failure with
          | some failure =>
            refine .stopped due made ?_ (by rw [returned]; simp) rfl
              ⟨by simp [Evaluation.raise], ?_⟩
            · by_contra proposed
              rw [ruleCreation_eq made new, if_pos (by simpa using proposed)] at returned
              cases returned
            · rintro run equal
              cases equal
              exact running
          | none =>
            refine .created due made creates returned rfl rfl rfl ⟨?_, ?_⟩
            · show (if rule.automaticLocal then _ else _ : TriggerEvaluationRun).status = _
              split <;> exact running
            · rintro run equal
              cases equal
              exact running

theorem effectOf_after {state later : TriggerState ρ} {handled : List Nat} {ruleId : Nat}
    {rule : SoarTriggerRule} (after : After env payload state later handled)
    (other : IsOther env payload handled ruleId) :
    isDue env later payload request.now ruleId rule =
        isDue env state payload request.now ruleId rule ∧
      effectOf env later request payload ruleId rule =
        effectOf env state request payload ruleId rule := by
  unfold isDue effectOf
  rw [suppression_after after other, ruleExecution_after after]
  exact ⟨rfl, rfl⟩

/-- The effects of some rules in a state. -/
def effectsOf (env : SoarPlatform ρ) (state : TriggerState ρ) (request : Request)
    (payload : TriggerRequest) (rules : List (Nat × SoarTriggerRule)) : List (Nat × RuleEffect) :=
  rules.filterMap fun rule => (effectOf env state request payload rule.1 rule.2).map
    (Prod.mk rule.1)

/-- Every creation for a rule that is due commits its row and returns. -/
def CreationsReturn (env : SoarPlatform ρ) (state : TriggerState ρ) (request : Request)
    (account : UserAccount) (payload : TriggerRequest) (rules : List (Nat × SoarTriggerRule))
    (db : Database ρ) : Prop :=
  (∀ rule ∈ rules, isDue env state payload request.now rule.1 rule.2 = true →
    ∃ execution, ruleExecution env state.db request payload rule.1 rule.2 =
      .ok execution) ∧
    RunsReturn env state request account payload rules db

theorem effectOf_of_created {state : TriggerState ρ} {ruleId : Nat} {rule : SoarTriggerRule}
    {execution : SoarExecution} (due : isDue env state payload request.now ruleId rule = true)
    (made : ruleExecution env state.db request payload ruleId rule = .ok execution) :
    effectOf env state request payload ruleId rule = some (.created execution) := by
  simp only [isDue, Bool.and_eq_true, beq_iff_eq, Option.isNone_iff_eq_none] at due
  rw [effectOf, due.1]
  dsimp only
  rw [due.2, made]

/-- **The loop**, by induction on the rules: it goes through all of them exactly when every
creation returns, and then does about each what the first state does. -/
theorem evaluateRules_spec (state : TriggerState ρ) :
    ∀ (rules : List (Nat × SoarTriggerRule)) (handled : List Nat) (evaluation : Evaluation ρ),
      After env payload state evaluation.state handled →
      (∀ rule ∈ rules, IsOther env payload handled rule.1) →
      rules.Pairwise (fun first second => IsOther env payload [first.1] second.1) →
      Unfinished evaluation →
      (∃ done, evaluateRules env request account payload rules evaluation = .ok done ∧
          CreationsReturn env state request account payload rules
            evaluation.state.db ∧
          Unfinished done ∧
          done.effects = evaluation.effects ++ effectsOf env state request payload rules) ∨
        ∃ reply, evaluateRules env request account payload rules evaluation =
            .error reply ∧
          ¬CreationsReturn env state request account payload rules
            evaluation.state.db ∧ Raised reply := by
  intro rules
  induction rules with
  | nil =>
    intro handled evaluation _ _ _ unfinished
    exact .inl ⟨evaluation, rfl, ⟨fun _ wrong => absurd wrong List.not_mem_nil, trivial⟩,
      unfinished, by simp [effectsOf]⟩
  | cons entry rest ih =>
    intro handled evaluation after others distinct unfinished
    obtain ⟨ruleId, rule⟩ := entry
    obtain ⟨apart, distinct⟩ := List.pairwise_cons.mp distinct
    have mine := others (ruleId, rule) List.mem_cons_self
    obtain ⟨dueSame, effectSame⟩ :=
      @effectOf_after ρ env request payload state evaluation.state handled ruleId rule
        after mine
    have madeSame := @ruleExecution_after ρ env request payload state evaluation.state
      handled ruleId rule after
    have later : ∀ other ∈ rest, IsOther env payload (handled ++ [ruleId]) other.1 := by
      intro other member id known
      rcases List.mem_append.mp known with old | new
      · exact others other (List.mem_cons_of_mem _ member) id old
      · exact apart other member id new
    have turn := @evaluateRule_turn ρ env request account payload ruleId rule evaluation
      unfinished
    unfold evaluateRules
    generalize evaluateRule env request account payload ruleId rule evaluation = result
      at turn
    cases turn with
    | passed idle done effects same unfinished =>
      rename_i next effect
      rw [dueSame] at idle
      rw [effectSame] at done
      have here : ∀ db, CreationsReturn env state request account payload
          ((ruleId, rule) :: rest) db ↔
          CreationsReturn env state request account payload rest db := by
        intro db
        simp [CreationsReturn, RunsReturn, idle]
      rw [here, ← same]
      rcases ih (handled ++ [ruleId]) next (by rw [same]; exact after.pass ruleId) later
          distinct unfinished with ⟨finish, ran, all, finished, found⟩ | failed
      · refine .inl ⟨finish, ran, all, finished, ?_⟩
        rw [found, effects, effectsOf, effectsOf, List.filterMap_cons, done]
        simp
      · exact .inr failed
    | created due made creates returned db effects origins unfinished =>
      rename_i next execution
      have now := due
      rw [dueSame] at now
      have same := made
      rw [madeSame] at same
      have here : CreationsReturn env state request account payload
          ((ruleId, rule) :: rest) evaluation.state.db ↔
          CreationsReturn env state request account payload rest
            next.state.db := by
        simp [CreationsReturn, RunsReturn, now, same, returned, db]
      have reached : After env payload state next.state (handled ++ [ruleId]) := by
        have grown := @After.create ρ env payload state evaluation.state handled
          next.state.db execution
          ⟨evaluation.state.db.executions.nextKey, ruleId, request.now⟩ after creates
          (ruleExecution_identity made).2
        rwa [← origins] at grown
      rw [here]
      rcases ih (handled ++ [ruleId]) next reached later distinct unfinished with
        ⟨finish, ran, all, finished, found⟩ | failed
      · refine .inl ⟨finish, ran, all, finished, ?_⟩
        rw [found, effects, effectsOf, effectsOf, List.filterMap_cons,
          effectOf_of_created now same]
        simp
      · exact .inr failed
    | refused due unmade effects raised =>
      rw [dueSame] at due
      refine .inr ⟨_, rfl, fun all => ?_, raised⟩
      obtain ⟨execution, made⟩ := all.1 (ruleId, rule) List.mem_cons_self due
      exact unmade execution (madeSame.trans made)
    | stopped due made automatic failed effects raised =>
      rw [dueSame] at due
      refine .inr ⟨_, rfl, fun all => ?_, raised⟩
      have runs := all.2
      rw [RunsReturn, if_pos due] at runs
      exact failed (runs.1 automatic)

end Loop

/-! ## Isolation -/

/-- The effects that other rules must not change: executions and suppressions. -/
def RuleEffect.isVisible : RuleEffect → Bool
  | .failed | .unmatched => false
  | _ => true

/-- The executions that are created and the suppressions, rule by rule. -/
def TriggerReply.visible (reply : TriggerReply ρ) : List (Nat × RuleEffect) :=
  reply.effects.filter fun effect => effect.2.isVisible

/-- An evaluation that finishes its run and does about each rule what it does about it alone. -/
structure Isolated (request : Request) (account : UserAccount) (payload : TriggerRequest)
    (rules : Table SoarTriggerRule) (state : TriggerState ρ) : Prop where
  returns : (evaluateTriggers env request account payload rules state).failure = none
  completed : ∃ run, (evaluateTriggers env request account payload rules state).run =
    some run ∧ (run.status = .completed ∨ run.status = .completedWithErrors)
  each : (evaluateTriggers env request account payload rules state).visible =
    (enabledRules rules payload.sourceType).flatMap fun rule =>
      (evaluateListed env request account payload [rule] state).visible

section Isolation

variable {env} {request : Request} {account : UserAccount} {payload : TriggerRequest}
  {state : TriggerState ρ}

theorem unfinished_start (request : Request) (payload : TriggerRequest) (state : TriggerState ρ) :
    Unfinished (Evaluation.start request payload state) :=
  ⟨rfl, fun _ wrong => nomatch wrong⟩

/-- One rule alone has its own effects. -/
theorem evaluateListed_single (rule : Nat × SoarTriggerRule) :
    (evaluateListed env request account payload [rule] state).effects =
      effectsOf env state request payload [rule] := by
  obtain ⟨ruleId, rule⟩ := rule
  have turn := @evaluateRule_turn ρ env request account payload ruleId rule
    (Evaluation.start request payload state) (unfinished_start request payload state)
  unfold evaluateListed
  rw [List.take_of_length_le (by simp)]
  unfold evaluateRules
  generalize evaluateRule env request account payload ruleId rule
    (Evaluation.start request payload state) = result at turn
  rw [effectsOf, List.filterMap_cons, List.filterMap_nil]
  have given : (Evaluation.start request payload state).state = state := rfl
  have empty : (Evaluation.start request payload state).effects = [] := rfl
  cases turn with
  | passed idle done effects same unfinished =>
    rw [given] at done
    rw [done]
    exact effects
  | created due made creates returned db effects origins unfinished =>
    rw [given] at due made
    rw [effectOf_of_created due made]
    exact effects
  | refused due unmade effects raised =>
    rw [given] at due unmade
    have none : effectOf env state request payload ruleId rule = none := by
      simp only [isDue, Bool.and_eq_true, beq_iff_eq, Option.isNone_iff_eq_none] at due
      rw [effectOf, due.1]
      dsimp only
      rw [due.2]
      cases made : ruleExecution env state.db request payload ruleId rule with
      | ok execution => exact absurd made (unmade execution)
      | error failure => rfl
    rw [none]
    exact effects
  | stopped due made automatic failed effects raised =>
    rw [given] at due made
    rw [effectOf_of_created due made]
    exact effects

theorem visible_single (rule : Nat × SoarTriggerRule) :
    (evaluateListed env request account payload [rule] state).visible =
      (effectsOf env state request payload [rule]).filter fun effect => effect.2.isVisible :=
  congrArg _ (evaluateListed_single rule)

variable (env request payload state) in
theorem effectsOf_append (first second : List (Nat × SoarTriggerRule)) :
    effectsOf env state request payload (first ++ second) =
      effectsOf env state request payload first ++
        effectsOf env state request payload second :=
  List.filterMap_append

theorem flatMap_visible (rules : List (Nat × SoarTriggerRule)) :
    (rules.flatMap fun rule =>
      (evaluateListed env request account payload [rule] state).visible) =
      (effectsOf env state request payload rules).filter fun effect => effect.2.isVisible := by
  induction rules with
  | nil => rfl
  | cons rule rest ih =>
    rw [List.flatMap_cons, ih, visible_single, ← List.filter_append, ← effectsOf_append]
    rfl

/-- A rule past the limit does not miss anything: it does not match, or it is due and no row
can be created for it. -/
def MissesNothing (env : SoarPlatform ρ) (state : TriggerState ρ) (request : Request)
    (payload : TriggerRequest) (ruleId : Nat) (rule : SoarTriggerRule) : Prop :=
  verdict env payload rule = some true →
    isDue env state payload request.now ruleId rule = true ∧
      ∀ execution, ruleExecution env state.db request payload ruleId rule ≠ .ok execution

theorem missesNothing_iff (rule : Nat × SoarTriggerRule) :
    ((effectsOf env state request payload [rule]).filter fun effect =>
      effect.2.isVisible) = [] ↔ MissesNothing env state request payload rule.1 rule.2 := by
  obtain ⟨ruleId, rule⟩ := rule
  unfold MissesNothing effectsOf effectOf isDue
  dsimp only [List.filterMap_cons, List.filterMap_nil]
  cases judged : verdict env payload rule with
  | none => exact iff_of_true rfl fun wrong => nomatch wrong
  | some matched =>
    cases matched with
    | false => exact iff_of_true rfl fun wrong => by simp at wrong
    | true =>
      dsimp only
      rcases @suppression_cases ρ env payload state request.now ruleId rule with
        found | found | ⟨found, -⟩
      · rw [found]
        exact iff_of_false (by simp [RuleEffect.isVisible]) fun all => by simpa using all rfl
      · rw [found]
        exact iff_of_false (by simp [RuleEffect.isVisible]) fun all => by simpa using all rfl
      · rw [found]
        cases made : ruleExecution env state.db request payload ruleId rule with
        | ok execution =>
          exact iff_of_false (by simp [RuleEffect.isVisible])
            fun all => (all rfl).2 execution rfl
        | error failure => exact iff_of_true rfl fun _ => ⟨rfl, fun _ wrong => nomatch wrong⟩

variable (env request payload state) in
theorem visible_eq_nil_iff (rules : List (Nat × SoarTriggerRule)) :
    ((effectsOf env state request payload rules).filter fun effect =>
      effect.2.isVisible) = [] ↔
      ∀ rule ∈ rules, MissesNothing env state request payload rule.1 rule.2 := by
  induction rules with
  | nil => simp [effectsOf]
  | cons rule rest ih =>
    rw [← List.singleton_append, effectsOf_append, List.filter_append, List.append_eq_nil_iff,
      missesNothing_iff, ih, List.singleton_append, List.forall_mem_cons]

/-- **Rules are isolated exactly when no creation raises and no rule past the hundredth misses
anything.** -/
theorem evaluateTriggers_isolated_iff (env : SoarPlatform ρ) (request : Request)
    (account : UserAccount) (payload : TriggerRequest) (rules : Table SoarTriggerRule)
    (state : TriggerState ρ)
    (fingerprints : ∀ first ∈ enabledRules rules payload.sourceType,
      ∀ second ∈ enabledRules rules payload.sourceType,
        triggerFingerprint env payload first.1 =
          triggerFingerprint env payload second.1 → first.1 = second.1) :
    Isolated env request account payload rules state ↔
      CreationsReturn env state request account payload
          ((enabledRules rules payload.sourceType).take 100) state.db ∧
        ∀ rule ∈ (enabledRules rules payload.sourceType).drop 100,
          MissesNothing env state request payload rule.1 rule.2 := by
  have distinct : (enabledRules rules payload.sourceType).Pairwise
      fun first second => IsOther env payload [first.1] second.1 := by
    have keys : ((enabledRules rules payload.sourceType).map Prod.fst).Nodup :=
      rules.keys_nodup.sublist (List.Sublist.map Prod.fst List.filter_sublist)
    have apart := List.pairwise_map.mp keys
    refine apart.imp_of_mem ?_
    intro first second memberFirst memberSecond other id known
    rw [List.mem_singleton.mp known]
    refine ⟨Ne.symm other, fun same => other ?_⟩
    exact (fingerprints second memberSecond first memberFirst same).symm
  have loop := @evaluateRules_spec ρ env request account payload state
    ((enabledRules rules payload.sourceType).take 100) []
    (Evaluation.start request payload state) (After.refl state)
    (fun _ _ _ wrong => absurd wrong List.not_mem_nil)
    (distinct.sublist (List.take_sublist _ _)) (unfinished_start request payload state)
  have split := effectsOf_append env request payload state
    ((enabledRules rules payload.sourceType).take 100)
    ((enabledRules rules payload.sourceType).drop 100)
  rw [List.take_append_drop] at split
  rcases loop with ⟨done, ran, all, finished, effects⟩ | ⟨reply, ran, failing, raised⟩
  · have result : evaluateTriggers env request account payload rules state =
        ⟨done.state, some (done.run.finish request.now), done.effects, none⟩ := by
      unfold evaluateTriggers evaluateListed
      rw [ran]
    have visible : (evaluateTriggers env request account payload rules state).visible =
        (effectsOf env state request payload
          ((enabledRules rules payload.sourceType).take 100)).filter
            fun effect => effect.2.isVisible := by
      rw [TriggerReply.visible, result]
      dsimp only
      rw [effects]
      rfl
    have ends : (done.run.finish request.now).status = .completed ∨
        (done.run.finish request.now).status = .completedWithErrors := by
      unfold TriggerEvaluationRun.finish
      dsimp only
      split
      · exact .inl rfl
      · exact .inr rfl
    have nothing := visible_eq_nil_iff env request payload state
      ((enabledRules rules payload.sourceType).drop 100)
    constructor
    · intro isolated
      have each := isolated.each
      rw [visible, flatMap_visible, split, List.filter_append, List.self_eq_append_right] at each
      exact ⟨all, nothing.mp each⟩
    · rintro ⟨-, missed⟩
      refine ⟨by rw [result], ⟨_, by rw [result], ends⟩, ?_⟩
      rw [visible, flatMap_visible, split, List.filter_append, nothing.mpr missed,
        List.append_nil]
  · have result : evaluateTriggers env request account payload rules state = reply := by
      unfold evaluateTriggers evaluateListed
      rw [ran]
    refine iff_of_false (fun isolated => ?_) fun holds => failing holds.1
    have returns := isolated.returns
    rw [result] at returns
    exact raised.failure returns

end Isolation

/-! ## Two rules for alerts -/

/-- Rules that only propose start no run, so that every run returns. -/
theorem runsReturn_of_proposals (state : TriggerState ρ) (request : Request)
    (account : UserAccount) (payload : TriggerRequest) {rules : List (Nat × SoarTriggerRule)}
    (proposals : ∀ rule ∈ rules, rule.2.automaticLocal = false) (db : Database ρ) :
    RunsReturn env state request account payload rules db := by
  induction rules generalizing db with
  | nil => trivial
  | cons entry rest ih =>
    have later := ih fun rule member => proposals rule (List.mem_cons_of_mem _ member)
    have proposal := proposals entry List.mem_cons_self
    unfold RunsReturn
    split
    · refine ⟨fun automatic => ?_, later _⟩
      rw [proposal] at automatic
      cases automatic
    · exact later db

/-- A rule that proposes a playbook for every alert. -/
def alertRule (playbookId : Nat) : SoarTriggerRule where
  playbookId := playbookId
  sourceType := "soc_alert"
  conditions := .obj [("operator", .str "equals"), ("left", .int 1), ("right", .int 1)]
  automaticLocal := false
  cooldownMinutes := 60
  maximumProposalsPerHour := 20
  enabled := true

/-- One rule for each of two playbooks. -/
def alertRules : Table SoarTriggerRule :=
  (Table.empty.insert (alertRule 1)).insert (alertRule 2)

/-- Two playbooks of one end step, the first in a given lifecycle. -/
def alertState (lifecycle : LifecycleStatus) : TriggerState Unit :=
  ⟨.initial (plainStore []) ((Table.empty.insert
      { plainPlaybook [plainStep "a" "end" 0 []] with lifecycleStatus := lifecycle }).insert
        (plainPlaybook [plainStep "a" "end" 0 []])), []⟩

def alertRequest : TriggerRequest := ⟨"soc_alert", 7, [], fun ruleId => toString ruleId⟩

/-- The evaluation of the two rules on the alert. -/
def alertActor : Request := ⟨0, 1, none, createRun .dryRun⟩

theorem evaluateTriggers_isolated_alert :
    Isolated plainPlatform alertActor (administrator "alice") alertRequest alertRules
      (alertState .active) := by
  refine (evaluateTriggers_isolated_iff plainPlatform alertActor (administrator "alice")
    alertRequest alertRules (alertState .active) (by decide +kernel)).mpr ⟨⟨?_, ?_⟩, ?_⟩
  · have made : ((enabledRules alertRules "soc_alert").take 100).all (fun rule =>
        (ruleExecution plainPlatform (alertState .active).db alertActor alertRequest rule.1
          rule.2).isOk) = true := by
      decide +kernel
    intro rule member _
    have here := List.all_eq_true.mp made rule member
    cases created : ruleExecution plainPlatform (alertState .active).db alertActor
        alertRequest rule.1 rule.2 with
    | ok execution => exact ⟨execution, rfl⟩
    | error failure =>
      rw [created] at here
      cases here
  · exact runsReturn_of_proposals plainPlatform _ _ _ _ (by decide +kernel) _
  · have none : (enabledRules alertRules alertRequest.sourceType).drop 100 = [] :=
      List.drop_of_length_le (by decide +kernel)
    rw [none]
    exact fun _ wrong => absurd wrong List.not_mem_nil

theorem archived_playbook_stops_rules :
    (evaluateListed plainPlatform alertActor (administrator "alice") alertRequest
        [(2, alertRule 2)] (alertState .archived)).visible.length = 1 ∧
      (evaluateTriggers plainPlatform alertActor (administrator "alice") alertRequest alertRules
        (alertState .archived)).visible.length = 0 ∧
      ¬ Isolated plainPlatform alertActor (administrator "alice") alertRequest alertRules
        (alertState .archived) := by
  refine ⟨by decide +kernel, by decide +kernel, fun isolated => ?_⟩
  have raises : (evaluateTriggers plainPlatform alertActor (administrator "alice") alertRequest
      alertRules (alertState .archived)).failure.isSome = true := by
    decide +kernel
  rw [isolated.returns] at raises
  cases raises

end ThreatScope.Soar
