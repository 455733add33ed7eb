import ThreatScope.Soar.ConditionWalks
import ThreatScope.Soar.Engine
import ThreatScope.Soar.GraphReport

/-!
# The validator on every object

`validate_definition` encodes the definition three times, looks up values of it in sets and
dictionaries, calls `int` on them and reads fields of what should be an object. The definitions
on which none of that raises are described field by field (`Checkable`), and on exactly these it
returns a result (`validateDefinition_total_iff`). What it accepts is well formed
(`wellFormed_of_valid`).
-/

set_option autoImplicit false

namespace ThreatScope.Soar

open Library

/-! ## What the checks need -/

/-- A value that can be looked up in a set or a dictionary. -/
def isHashable : Json → Bool
  | .arr _ | .obj _ => false
  | _ => true

theorem hashable_eq_ok_iff (value : Json) : hashable value = .ok () ↔ isHashable value = true := by
  cases value <;> simp [hashable, isHashable]

theorem catalogEntry_ok_iff (value : Json) :
    (∃ entry, catalogEntry value = .ok entry) ↔ isHashable value = true := by
  cases value <;> simp [catalogEntry, hashable, isHashable]

/-- The fields of an analyst-input step that are looked at. -/
def analystFields (step : Dict) : List Json :=
  match getOr step "configuration" (.obj []) with
  | .obj configuration => (getOr configuration "fields" (.arr [])).items
  | _ => []

/-- The types of a step whose action is looked up. -/
def StepType.takesAction : StepType → Bool
  | .action | .notification | .caseWorkflow | .evidenceSnapshot => true
  | _ => false

/-- A step with a usable key on which no check raises. -/
structure CheckableStep (py : Interpreter) (step : Dict) : Prop where
  type : isHashable (Dict.get step "type") = true
  condition : typeOf step = some .condition →
    .unhashable ∉ visits (maxDepth + 1) (Dict.get step "condition")
  fields : typeOf step = some .analystInput →
    ∀ field ∈ analystFields step, ∃ members, field = .obj members
  approvals : typeOf step = some .approval →
    ∃ configuration, getOr step "configuration" (.obj []) = .obj configuration ∧
      (py.int (getOr configuration "minimum_approvals" (.int 1))).isSome = true
  action : ∀ stepType, typeOf step = some stepType → stepType.takesAction = true →
    isHashable (Dict.get step "action_key") = true

/-- An item of the steps that `_normalize` can place. -/
def Placed (py : Interpreter) (item : Json) : Prop :=
  ∃ step, item = .obj step ∧ (py.int (getOr step "position" (.int 0))).isSome = true

/-- The key of an item, when it is a stable step key, with the step. -/
def keyedItem? : Json → Option (String × Dict)
  | .obj step =>
    match Dict.get step "key" with
    | .str key => if matchesStepKey key then some (key, step) else none
    | _ => none
  | _ => none

/-- The items that the loop over the steps goes through. -/
def loopItems (fields : Dict) : List Json :=
  match Dict.get fields "steps" with
  | .arr items => if 1 ≤ items.length ∧ items.length ≤ 50 then items else []
  | _ => []

/-- The steps with a usable key among them. -/
def checkedSteps (fields : Dict) : List (String × Dict) := (loopItems fields).filterMap keyedItem?

/-- `sorted(result.get("steps", []), ..)` can place the steps. -/
def StepsPlaced (py : Interpreter) : Json → Prop
  | .arr items => ∀ item ∈ items, Placed py item
  | .str text => text = ""
  | .obj members => members = []
  | _ => False

/-- A definition on which no check raises. -/
structure Checkable (py : Interpreter) (fields : Dict) : Prop where
  shallow : (Json.obj fields).depth ≤ py.depthLimit
  printable : printable (.obj fields) = true
  encodable : py.encodable (.obj fields) = true
  placed : StepsPlaced py (getOr fields "steps" (.arr []))
  start : isHashable (Dict.get fields "start_step") = true
  steps : ∀ entry ∈ checkedSteps fields, CheckableStep py entry.2
  /-- The routes of the last step under each key. -/
  routes : ∀ before key step after, checkedSteps fields = before ++ (key, step) :: after →
    key ∉ after.map Prod.fst → ∀ route ∈ routesOf step, isHashable route = true

/-! ## One step -/

section Step

variable {py : Interpreter} {steps : List Json} {triggerMode : TriggerMode} {policies : PolicyMaps}

theorem checkEach_ok_iff {α : Type} {check : α → Except String (List ValidationIssue)}
    {items : List α} : (∃ issues, checkEach check items = .ok issues) ↔
      ∀ item ∈ items, ∃ issues, check item = .ok issues := by
  refine ⟨fun ⟨issues, checked⟩ => exists_of_checkEach checked, fun each => ?_⟩
  induction items with
  | nil => exact ⟨[], rfl⟩
  | cons item rest ih =>
    obtain ⟨issues, here⟩ := each item List.mem_cons_self
    obtain ⟨later, after⟩ := ih fun other member => each other (List.mem_cons_of_mem _ member)
    exact ⟨issues ++ later, by rw [checkEach, here, after]⟩

theorem analystFieldIssues_ok_iff (path key : String) (field : Json) :
    (∃ issues, analystFieldIssues py path key field = .ok issues) ↔
      ∃ members, field = .obj members := by
  cases field with
  | obj members =>
    refine iff_of_true ?_ ⟨members, rfl⟩
    unfold analystFieldIssues
    dsimp only
    split
    · exact ⟨_, rfl⟩
    · exact ⟨_, rfl⟩
  | _ => exact iff_of_false nofun nofun

theorem analystInputIssues_ok_iff (path key : String) (step : Dict) :
    (∃ issues, analystInputIssues py path key step = .ok issues) ↔
      ∀ field ∈ analystFields step, ∃ members, field = .obj members := by
  simp only [← @analystFieldIssues_ok_iff py path key]
  rw [← checkEach_ok_iff]
  unfold analystInputIssues analystFields
  extract_lets fields count
  have same : fields.items = match getOr step "configuration" (.obj []) with
      | .obj configuration => (getOr configuration "fields" (.arr [])).items
      | _ => [] := by
    dsimp only [fields]
    cases getOr step "configuration" (.obj []) <;> rfl
  rw [← same]
  cases checkEach (analystFieldIssues py path key) fields.items with
  | error message => exact iff_of_false nofun nofun
  | ok issues => exact iff_of_true ⟨_, rfl⟩ ⟨issues, rfl⟩

theorem stepMinimumApprovals_ok_iff (step : Dict) :
    (∃ minimum, stepMinimumApprovals py step = .ok minimum) ↔
      ∃ configuration, getOr step "configuration" (.obj []) = .obj configuration ∧
        (py.int (getOr configuration "minimum_approvals" (.int 1))).isSome = true := by
  unfold stepMinimumApprovals
  cases getOr step "configuration" (.obj []) with
  | obj configuration =>
    dsimp only
    cases given : py.int (getOr configuration "minimum_approvals" (.int 1)) with
    | none =>
      refine iff_of_false nofun ?_
      rintro ⟨same, found, known⟩
      cases found
      rw [given] at known
      cases known
    | some number => exact iff_of_true ⟨_, rfl⟩ ⟨configuration, rfl, by rw [given]; rfl⟩
  | _ => exact iff_of_false nofun nofun

theorem conditionErrors_ok_iff (path : String) (condition : Json) :
    (∃ answer, conditionErrors (maxDepth + 1) path condition 0 = .ok answer) ↔
      .unhashable ∉ visits (maxDepth + 1) condition := by
  have answers := answers_conditionErrors (maxDepth + 1) path condition 0
  cases returned : conditionErrors (maxDepth + 1) path condition 0 with
  | error message =>
    rw [returned] at answers
    exact iff_of_false nofun fun absent => absent answers
  | ok answer =>
    rw [returned] at answers
    exact iff_of_true ⟨answer, rfl⟩ answers.1

theorem hasApprovalStep_ok {items : List Json} (placed : ∀ item ∈ items, ∃ step, item = .obj step) :
    ∃ approved, hasApprovalStep items = .ok approved := by
  induction items with
  | nil => exact ⟨false, rfl⟩
  | cons item rest ih =>
    obtain ⟨step, rfl⟩ := placed item List.mem_cons_self
    rw [hasApprovalStep]
    split
    · exact ⟨true, rfl⟩
    · exact ih fun other member => placed other (List.mem_cons_of_mem _ member)

theorem checkAction_ok (placed : ∀ item ∈ steps, ∃ step, item = .obj step) (path key : String)
    (action : ActionDefinition) (retries : Json) (scan : StepScan) :
    ∃ after, checkAction steps triggerMode policies path key action retries scan = .ok after := by
  obtain ⟨approved, found⟩ := hasApprovalStep_ok placed
  unfold checkAction
  extract_lets warned simulated sensitive
  cases sensitive with
  | false => exact ⟨_, rfl⟩
  | true =>
    rw [if_pos rfl, found]
    exact ⟨_, rfl⟩

theorem takesAction_iff {stepType : Option StepType} :
    (stepType = some .action ∨ stepType = some .notification ∨ stepType = some .caseWorkflow ∨
      stepType = some .evidenceSnapshot) ↔
    ∃ kind, stepType = some kind ∧ kind.takesAction = true := by
  constructor
  · rintro (rfl | rfl | rfl | rfl)
    · exact ⟨_, rfl, rfl⟩
    · exact ⟨_, rfl, rfl⟩
    · exact ⟨_, rfl, rfl⟩
    · exact ⟨_, rfl, rfl⟩
  · rintro ⟨kind, rfl, takes⟩
    cases kind <;> simp [StepType.takesAction] at takes ⊢

/-- The checks of an action return on a step that can be checked. -/
theorem actionChecks_ok (placed : ∀ item ∈ steps, ∃ step, item = .obj step) (path key : String)
    {step : Dict} (checkable : CheckableStep py step) (retries : Json) (approved : StepScan) :
    ∃ after, (if typeOf step = some .action ∨ typeOf step = some .notification ∨
          typeOf step = some .caseWorkflow ∨ typeOf step = some .evidenceSnapshot then
        match catalogEntry (Dict.get step "action_key") with
        | .error message => .error message
        | .ok none =>
          .ok (approved.report [⟨"SOAR_ACTION_UNKNOWN", some (path ++ ".action_key"), some key,
            "Action key is not in the server-owned catalog"⟩])
        | .ok (some action) =>
          match checkAction steps triggerMode policies path key action.definition retries
            approved with
          | .error message => .error message
          | .ok scan => .ok { scan with branches := scan.branches + (routesOf step).length }
      else Except.ok { approved with branches := approved.branches + (routesOf step).length }) =
        .ok after := by
  split
  · rename_i takes
    obtain ⟨kind, same, takes⟩ := takesAction_iff.mp takes
    obtain ⟨entry, found⟩ := (catalogEntry_ok_iff _).mpr (checkable.action kind same takes)
    rw [found]
    cases entry with
    | none => exact ⟨_, rfl⟩
    | some action =>
      obtain ⟨after, acted⟩ := @checkAction_ok _ triggerMode policies placed path key
        action.definition retries approved
      dsimp only
      rw [acted]
      exact ⟨_, rfl⟩
  · exact ⟨_, rfl⟩

/-- **The checks of a step raise nothing exactly when the step is checkable.** -/
theorem checkKeyedStep_ok_iff (placed : ∀ item ∈ steps, ∃ step, item = .obj step) (index : Nat)
    (path key : String) {step : Dict}
    (position : isHashable (getOr step "position" (.int index)) = true) (scan : StepScan) :
    (∃ after, checkKeyedStep py steps triggerMode policies index path key step scan = .ok after) ↔
      CheckableStep py step := by
  constructor
  · rintro ⟨after, checked⟩
    unfold checkKeyedStep at checked
    extract_lets reported taken at checked
    clear_value taken
    split at checked
    · cases checked
    rename_i stepType typed place placed positioned retries bounded _ typeHashable
    have known : stepType = typeOf step := rfl
    clear_value typed placed positioned bounded stepType
    subst known
    split at checked
    · cases checked
    split at checked
    · cases checked
    rename_i conditionIssues count conditions
    split at checked
    · cases checked
    rename_i fieldIssues fields
    extract_lets listed counted at checked
    clear_value listed counted
    split at checked
    · cases checked
    rename_i approved approval
    refine ⟨(hashable_eq_ok_iff _).mp typeHashable, fun same => ?_, fun same => ?_, fun same => ?_,
      fun kind same takes => ?_⟩
    · rw [if_pos same] at conditions
      exact (conditionErrors_ok_iff _ _).mp ⟨_, conditions⟩
    · rw [if_pos same] at fields
      exact (analystInputIssues_ok_iff _ _ _).mp ⟨_, fields⟩
    · rw [if_pos same] at approval
      refine (stepMinimumApprovals_ok_iff step).mp ?_
      cases minimum : stepMinimumApprovals py step with
      | error message => rw [minimum] at approval; cases approval
      | ok number => exact ⟨number, rfl⟩
    · rw [if_pos (takesAction_iff.mpr ⟨kind, same, takes⟩)] at checked
      refine (catalogEntry_ok_iff _).mp ?_
      cases entry : catalogEntry (Dict.get step "action_key") with
      | error message => rw [entry] at checked; cases checked
      | ok found => exact ⟨found, rfl⟩
  · intro checkable
    unfold checkKeyedStep
    extract_lets reported taken stepType typed place placedScan positioned retries bounded
    rw [(hashable_eq_ok_iff _).mpr checkable.type]
    dsimp -zeta only
    rw [(hashable_eq_ok_iff _).mpr position]
    dsimp -zeta only
    have known : stepType = typeOf step := rfl
    clear_value bounded positioned placedScan typed stepType
    subst known
    have conditions : ∃ answer, (if typeOf step = some .condition then
        conditionErrors (maxDepth + 1) (path ++ ".condition") (Dict.get step "condition") 0
        else .ok ([], 0)) = .ok answer := by
      split
      · rename_i same
        exact (conditionErrors_ok_iff _ _).mpr (checkable.condition same)
      · exact ⟨_, rfl⟩
    have fields : ∃ issues, (if typeOf step = some .analystInput then
        analystInputIssues py path key step else .ok []) = .ok issues := by
      split
      · rename_i same
        exact (analystInputIssues_ok_iff _ _ _).mpr (checkable.fields same)
      · exact ⟨_, rfl⟩
    obtain ⟨⟨conditionIssues, count⟩, conditions⟩ := conditions
    obtain ⟨fieldIssues, fields⟩ := fields
    rw [conditions]
    dsimp -zeta only
    rw [fields]
    dsimp -zeta only
    extract_lets listed counted
    clear_value counted
    by_cases approval : typeOf step = some .approval
    · obtain ⟨minimum, found⟩ :=
        (stepMinimumApprovals_ok_iff step).mpr (checkable.approvals approval)
      rw [if_pos approval, found]
      exact actionChecks_ok placed path key checkable retries _
    · rw [if_neg approval]
      exact actionChecks_ok placed path key checkable retries _

end Step

/-! ## The loop over the steps -/

theorem mem_setStep_iff {byKey : List (String × Dict)} {key : String} {step : Dict}
    {entry : String × Dict} :
    entry ∈ setStep byKey key step ↔ entry = (key, step) ∨ entry.1 ≠ key ∧ entry ∈ byKey := by
  unfold setStep
  split
  · rename_i known
    obtain ⟨old, stored, same⟩ := List.any_eq_true.mp known
    rw [List.mem_map]
    constructor
    · rintro ⟨other, member, rfl⟩
      by_cases named : other.1 = key
      · exact .inl (if_pos (beq_iff_eq.mpr named))
      · rw [if_neg (by simpa using named)]
        exact .inr ⟨named, member⟩
    · rintro (rfl | ⟨named, member⟩)
      · exact ⟨old, stored, if_pos same⟩
      · exact ⟨entry, member, if_neg (by simpa using named)⟩
  · rename_i fresh
    rw [List.mem_append, List.mem_singleton]
    constructor
    · rintro (member | rfl)
      · refine .inr ⟨fun named => fresh ?_, member⟩
        exact List.any_eq_true.mpr ⟨entry, member, beq_iff_eq.mpr named⟩
      · exact .inl rfl
    · rintro (rfl | ⟨-, member⟩)
      · exact .inr rfl
      · exact .inl member

/-- The steps by key, from the steps in order. -/
def collectKeyed (named : List (String × Dict)) : List (String × Dict) :=
  named.foldl (fun byKey entry => setStep byKey entry.1 entry.2) []

/-- **Each key holds the last step with it.** -/
theorem mem_collectKeyed_iff {named : List (String × Dict)} {key : String} {step : Dict} :
    (key, step) ∈ collectKeyed named ↔
      ∃ before after, named = before ++ (key, step) :: after ∧ key ∉ after.map Prod.fst := by
  induction named using List.reverseRecOn with
  | nil => simp [collectKeyed]
  | append_singleton named last ih =>
    have collected : collectKeyed (named ++ [last]) =
        setStep (collectKeyed named) last.1 last.2 := List.foldl_append ..
    rw [collected, mem_setStep_iff, ih]
    constructor
    · rintro (same | ⟨other, before, after, rfl, fresh⟩)
      · exact ⟨named, [], by rw [same], List.not_mem_nil⟩
      · refine ⟨before, after ++ [last], by simp, ?_⟩
        rw [List.map_append, List.mem_append]
        rintro (earlier | here)
        · exact fresh earlier
        · exact other (List.mem_singleton.mp here)
    · rintro ⟨before, after, split, fresh⟩
      induction after using List.reverseRecOn with
      | nil => exact .inl (List.append_inj_right' split rfl |> List.singleton_inj.mp).symm
      | append_singleton after final _ =>
        rw [← List.cons_append, ← List.append_assoc] at split
        obtain ⟨rfl, ends⟩ := List.append_inj' split rfl
        obtain rfl := List.singleton_inj.mp ends
        rw [List.map_append, List.mem_append, not_or] at fresh
        refine .inr ⟨fun same => fresh.2 ?_, before, after, rfl, fresh.1⟩
        exact List.mem_singleton.mpr same

section Loop

variable {py : Interpreter} {steps : List Json} {triggerMode : TriggerMode} {policies : PolicyMaps}

/-- An item of the loop in the steps by key. -/
def collectItem (byKey : List (String × Dict)) (item : Json) : List (String × Dict) :=
  match keyedItem? item with
  | some (key, step) => setStep byKey key step
  | none => byKey

theorem isHashable_of_int {value : Json} (known : (py.int value).isSome = true) :
    isHashable value = true := by
  cases value with
  | arr _ => cases known
  | obj _ => cases known
  | _ => rfl

theorem isHashable_position {step : Dict} (index : Nat)
    (known : (py.int (getOr step "position" (.int 0))).isSome = true) :
    isHashable (getOr step "position" (.int index)) = true := by
  unfold getOr at known ⊢
  cases given : Dict.find? step "position" with
  | none => rfl
  | some value =>
    rw [given] at known
    exact isHashable_of_int known

/-- A step by its key: the checks of a step with a stable key, and an issue otherwise. -/
theorem checkStep_eq (item : Json) (index : Nat) (scan : StepScan) :
    (∃ key step, keyedItem? item = some (key, step) ∧ item = .obj step ∧
      checkStep py steps triggerMode policies scan (item, index) =
        checkKeyedStep py steps triggerMode policies index ("steps[" ++ toString index ++ "]")
          key step scan) ∨
    (keyedItem? item = none ∧ ∃ issue,
      checkStep py steps triggerMode policies scan (item, index) = .ok (scan.report [issue])) := by
  unfold checkStep keyedItem?
  cases item with
  | obj step =>
    dsimp only
    cases Dict.get step "key" with
    | str key =>
      dsimp only
      by_cases stable : matchesStepKey key = true
      · rw [if_pos stable, if_pos stable]
        exact .inl ⟨key, step, rfl, rfl, rfl⟩
      · rw [if_neg stable, if_neg stable]
        exact .inr ⟨rfl, _, rfl⟩
    | _ => exact .inr ⟨rfl, _, rfl⟩
  | _ => exact .inr ⟨rfl, _, rfl⟩

theorem checkStep_byKey {item : Json} {index : Nat} {scan after : StepScan}
    (checked : checkStep py steps triggerMode policies scan (item, index) = .ok after) :
    after.byKey = collectItem scan.byKey item := by
  unfold collectItem
  rcases checkStep_eq item index scan with ⟨key, step, found, -, same⟩ | ⟨found, issue, same⟩
  · rw [same] at checked
    rw [found]
    exact (checkKeyedStep_scanned checked).byKey
  · rw [same] at checked
    rw [found]
    cases checked
    rfl

theorem checkStep_ok_iff (placed : ∀ item ∈ steps, Placed py item) {item : Json}
    (here : Placed py item) (index : Nat) (scan : StepScan) :
    (∃ after, checkStep py steps triggerMode policies scan (item, index) = .ok after) ↔
      ∀ entry, keyedItem? item = some entry → CheckableStep py entry.2 := by
  have objects : ∀ item ∈ steps, ∃ step, item = .obj step := by
    intro item member
    obtain ⟨step, same, -⟩ := placed item member
    exact ⟨step, same⟩
  rcases checkStep_eq item index scan with ⟨key, step, found, rfl, same⟩ | ⟨found, issue, same⟩
  · obtain ⟨placedStep, equal, known⟩ := here
    cases equal
    rw [same, checkKeyedStep_ok_iff objects index _ key (isHashable_position index known), found]
    simp
  · rw [same, found]
    exact iff_of_true ⟨_, rfl⟩ nofun

/-- **The loop ends exactly when all its steps are checkable.** -/
theorem checkSteps_ok_iff (placed : ∀ item ∈ steps, Placed py item) {items : List Json}
    (here : ∀ item ∈ items, Placed py item) (index : Nat) (scan : StepScan) :
    (∃ after, checkSteps py steps triggerMode policies (items.zipIdx index) scan = .ok after) ↔
      ∀ entry ∈ items.filterMap keyedItem?, CheckableStep py entry.2 := by
  induction items generalizing index scan with
  | nil => exact iff_of_true ⟨scan, rfl⟩ fun entry member => absurd member List.not_mem_nil
  | cons item rest ih =>
    have first := @checkStep_ok_iff _ _ triggerMode policies placed item
      (here item List.mem_cons_self) index scan
    have later := ih (fun other member => here other (List.mem_cons_of_mem _ member)) (index + 1)
    have members : (∀ entry ∈ (item :: rest).filterMap keyedItem?, CheckableStep py entry.2) ↔
        (∀ entry, keyedItem? item = some entry → CheckableStep py entry.2) ∧
          ∀ entry ∈ rest.filterMap keyedItem?, CheckableStep py entry.2 := by
      rw [List.filterMap_cons]
      cases keyedItem? item with
      | none => simp
      | some entry => simp
    rw [members, ← first, List.zipIdx_cons, checkSteps]
    cases checkStep py steps triggerMode policies scan (item, index) with
    | error message =>
      have raised {scan : StepScan} : Except.error message ≠ .ok scan := by simp
      exact iff_of_false (fun ends => ends.elim fun _ => raised)
        (fun both => both.1.elim fun _ => raised)
    | ok middle =>
      rw [← later middle]
      exact ⟨fun after => ⟨⟨middle, rfl⟩, after⟩, fun both => both.2⟩

theorem checkSteps_byKey {items : List Json} {index : Nat} {scan after : StepScan}
    (checked : checkSteps py steps triggerMode policies (items.zipIdx index) scan = .ok after) :
    after.byKey = (items.filterMap keyedItem?).foldl
      (fun byKey entry => setStep byKey entry.1 entry.2) scan.byKey := by
  induction items generalizing index scan with
  | nil =>
    cases checked
    rfl
  | cons item rest ih =>
    rw [List.zipIdx_cons, checkSteps] at checked
    cases first : checkStep py steps triggerMode policies scan (item, index) with
    | error message => rw [first] at checked; cases checked
    | ok middle =>
      rw [first] at checked
      have stored := checkStep_byKey first
      rw [ih checked, stored, List.filterMap_cons]
      unfold collectItem
      cases keyedItem? item with
      | none => rfl
      | some entry => rfl

end Loop

/-! ## The whole definition -/

section Whole

variable {py : Interpreter}

/-- The positions are read exactly if each item has one. -/
theorem positioned_ok_iff {items : List Json} :
    (∃ placed, positioned py items = .ok placed) ↔ ∀ item ∈ items, Placed py item := by
  induction items with
  | nil => exact iff_of_true ⟨[], rfl⟩ fun item member => absurd member List.not_mem_nil
  | cons item rest ih =>
    rw [List.forall_mem_cons, ← ih, positioned]
    have here : (∃ place, positionOf py item = .ok place) ↔ Placed py item := by
      unfold positionOf Placed
      cases item with
      | obj step =>
        dsimp only
        cases given : py.int (getOr step "position" (.int 0)) with
        | none =>
          refine iff_of_false nofun ?_
          rintro ⟨same, equal, known⟩
          cases equal
          rw [given] at known
          cases known
        | some position => exact iff_of_true ⟨_, rfl⟩ ⟨step, rfl, by rw [given]; rfl⟩
      | _ => exact iff_of_false nofun nofun
    rw [← here]
    cases positionOf py item with
    | error message =>
      exact iff_of_false nofun (fun both => by obtain ⟨⟨_, wrong⟩, -⟩ := both; cases wrong)
    | ok place =>
      dsimp only
      cases positioned py rest with
      | error message =>
        exact iff_of_false nofun (fun both => by obtain ⟨-, _, wrong⟩ := both; cases wrong)
      | ok later => exact iff_of_true ⟨_, rfl⟩ ⟨⟨_, rfl⟩, _, rfl⟩

theorem normalize_ok_iff (fields : Dict) :
    (∃ normalized, normalize py fields = .ok normalized) ↔
      printable (.obj fields) = true ∧ StepsPlaced py (getOr fields "steps" (.arr [])) := by
  unfold normalize StepsPlaced
  cases printable (.obj fields) with
  | false => exact iff_of_false nofun (fun both => Bool.false_ne_true both.1)
  | true =>
  rw [Bool.not_true, if_neg Bool.false_ne_true, eq_self_iff_true, true_and]
  cases getOr fields "steps" (.arr []) with
  | arr items =>
    dsimp only
    rw [← positioned_ok_iff]
    cases positioned py items with
    | error message => exact iff_of_false nofun nofun
    | ok placed => exact iff_of_true ⟨_, rfl⟩ ⟨placed, rfl⟩
  | str text =>
    by_cases empty : text = ""
    · subst empty
      exact iff_of_true ⟨_, rfl⟩ rfl
    · refine iff_of_false ?_ empty
      rintro ⟨normalized, done⟩
      split at done <;> simp_all
  | obj members =>
    cases members with
    | nil => exact iff_of_true ⟨_, rfl⟩ rfl
    | cons member rest => exact iff_of_false nofun nofun
  | _ => exact iff_of_false nofun id

theorem routeIssue_ok_iff (byKey : List (String × Dict)) (key : String) (target : Json) :
    (∃ issues, routeIssue py byKey key target = .ok issues) ↔ isHashable target = true := by
  unfold routeIssue
  by_cases loop : target.isStr key = true
  · rw [if_pos loop]
    rw [isStr_iff] at loop
    exact iff_of_true ⟨_, rfl⟩ (by rw [loop]; rfl)
  · rw [if_neg loop, ← hashable_eq_ok_iff]
    cases hashable target with
    | error message => exact iff_of_false nofun nofun
    | ok done =>
      refine iff_of_true ?_ rfl
      dsimp only
      split
      · exact ⟨_, rfl⟩
      · exact ⟨_, rfl⟩

theorem placed_of_stepsPlaced {fields : Dict}
    (placed : StepsPlaced py (getOr fields "steps" (.arr []))) :
    ∀ item ∈ loopItems fields, Placed py item := by
  unfold loopItems
  unfold getOr at placed
  unfold Dict.get
  cases given : Dict.find? fields "steps" with
  | none => exact fun item member => absurd member List.not_mem_nil
  | some value =>
    rw [given] at placed
    dsimp only [Option.getD_some] at placed ⊢
    cases value with
    | arr items =>
      dsimp only
      split
      · exact placed
      · exact fun item member => absurd member List.not_mem_nil
    | _ => exact fun item member => absurd member List.not_mem_nil

/-- **The validator returns a result exactly on the checkable definitions.** -/
theorem validateDefinition_ok_iff (fields : Dict) (triggerMode : TriggerMode)
    (policies : PolicyMaps) :
    (∃ result, validateDefinition py (.obj fields) triggerMode policies = .ok result) ↔
      Checkable py fields := by
  unfold validateDefinition
  by_cases deep : py.depthLimit < (Json.obj fields).depth
  · rw [if_pos deep]
    exact iff_of_false nofun fun checkable => not_lt.mpr checkable.shallow deep
  rw [if_neg deep]
  extract_lets oversized
  dsimp -zeta only
  extract_lets rootErrors variableErrors startValue estimated
  have items : (match Dict.get fields "steps" with
      | .arr steps =>
        if 1 ≤ steps.length ∧ steps.length ≤ 50 then (([] : List ValidationIssue), steps)
          else ([issueAt "steps" "Playbook requires 1 to 50 steps"], [])
      | _ => ([issueAt "steps" "Playbook requires 1 to 50 steps"], [])).2 = loopItems fields := by
    unfold loopItems
    cases Dict.get fields "steps" with
    | arr steps =>
      dsimp only
      split
      · rfl
      · rfl
    | _ => rfl
  generalize loop : Prod.snd _ = steps
  generalize Prod.fst _ = stepErrors
  obtain rfl : loopItems fields = steps := items.symm.trans loop
  clear loop items
  have looped (placed : ∀ item ∈ loopItems fields, Placed py item) :=
    @checkSteps_ok_iff py _ triggerMode policies placed _ placed 0
      { errors := rootErrors ++ variableErrors ++ stepErrors }
  cases checked : checkSteps py (loopItems fields) triggerMode policies
      (loopItems fields).zipIdx { errors := rootErrors ++ variableErrors ++ stepErrors } with
  | error message =>
    refine iff_of_false nofun fun checkable => ?_
    obtain ⟨after, done⟩ := (looped (placed_of_stepsPlaced checkable.placed)).mpr checkable.steps
    rw [checked] at done
    cases done
  | ok scan =>
    dsimp -zeta only
    extract_lets counted start reported
    have byKey : reported.byKey = collectKeyed (checkedSteps fields) := checkSteps_byKey checked
    clear_value reported start counted
    have last : (∀ entry ∈ reported.byKey, ∀ route ∈ routesOf entry.2, isHashable route = true) ↔
        ∀ before key step after, checkedSteps fields = before ++ (key, step) :: after →
          key ∉ after.map Prod.fst → ∀ route ∈ routesOf step, isHashable route = true := by
      rw [byKey]
      constructor
      · intro each before key step after split fresh
        exact each (key, step) (mem_collectKeyed_iff.mpr ⟨before, after, split, fresh⟩)
      · rintro each ⟨key, step⟩ member
        obtain ⟨before, after, split, fresh⟩ := mem_collectKeyed_iff.mp member
        exact each before key step after split fresh
    have routed : (∃ issues, checkEach (fun entry : String × Dict =>
          routeIssues py reported.byKey entry.1 (routesOf entry.2)) reported.byKey =
            .ok issues) ↔
        ∀ entry ∈ reported.byKey, ∀ route ∈ routesOf entry.2, isHashable route = true := by
      rw [checkEach_ok_iff]
      refine forall₂_congr fun entry member => ?_
      unfold routeIssues
      rw [checkEach_ok_iff]
      exact forall₂_congr fun route _ => routeIssue_ok_iff _ _ route
    cases started : hashable startValue with
    | error message =>
      refine iff_of_false nofun fun checkable => ?_
      rw [(hashable_eq_ok_iff startValue).mpr checkable.start] at started
      cases started
    | ok done =>
      dsimp -zeta only
      cases routes : checkEach (fun entry : String × Dict =>
          routeIssues py reported.byKey entry.1 (routesOf entry.2)) reported.byKey with
      | error message =>
        refine iff_of_false nofun fun checkable => ?_
        obtain ⟨issues, done⟩ := routed.mpr (last.mpr checkable.routes)
        rw [routes] at done
        cases done
      | ok routeErrors =>
        dsimp -zeta only
        extract_lets warned adjacency reachable unreachable terminal graphed
        cases placed : normalize py fields with
        | error message =>
          refine iff_of_false nofun fun checkable => ?_
          obtain ⟨normalized, done⟩ :=
            (normalize_ok_iff fields).mpr ⟨checkable.printable, checkable.placed⟩
          rw [placed] at done
          cases done
        | ok normalized =>
          obtain ⟨short, stepsPlaced⟩ := (normalize_ok_iff fields).mp ⟨normalized, placed⟩
          dsimp only
          cases encodes : py.encodable (.obj fields) with
          | false =>
            refine iff_of_false nofun fun checkable => ?_
            rw [checkable.encodable] at encodes
            cases encodes
          | true =>
            refine iff_of_true ⟨_, rfl⟩ ⟨not_lt.mp deep, short, encodes, stepsPlaced,
              (hashable_eq_ok_iff _).mp started, ?_, last.mp (routed.mp ⟨routeErrors, routes⟩)⟩
            exact (looped (placed_of_stepsPlaced stepsPlaced)).mp ⟨scan, checked⟩

end Whole

/-! ## Well-formed definitions -/

/-- An integer, a truth value included, within bounds. -/
def InBounds (value : Json) (low high : Int) : Prop :=
  ∃ number, integer? value = some number ∧ low ≤ number ∧ number ≤ high

/-- The delay of a delay step. -/
def delayOf (step : Dict) : Json :=
  match getOr step "configuration" (.obj []) with
  | .obj fields => Dict.get fields "delay_seconds"
  | _ => .null

/-- The fields of an analyst-input step, as they are given. -/
def fieldsOf (step : Dict) : Json :=
  match getOr step "configuration" (.obj []) with
  | .obj configuration => getOr configuration "fields" (.arr [])
  | _ => .arr []

/-- An analyst-input field of a known type whose name asks for no secret. -/
def WellFormedField (py : Interpreter) (field : Json) : Prop :=
  ∃ members, field = .obj members ∧
    py.str (getOr members "type" (.str "")) ∈ analystFieldTypes ∧
    ∀ word ∈ ["password", "secret", "token", "mfa", "recovery", "key"],
      Text.contains (py.casefold (py.str (getOr members "name" (.str "")))) word = false

/-- A step as the validator asks for it, at its place in the list. -/
structure WellFormedStep (py : Interpreter) (index : Nat) (step : Dict) : Prop where
  type : (typeOf step).isSome = true
  position : (integer? (getOr step "position" (.int index))).isSome = true
  retries : InBounds (getOr step "max_retries" (.int 0)) 0 3
  retryDelay : InBounds (getOr step "retry_delay_seconds" (.int 0)) 0 3600
  timeout : InBounds (getOr step "timeout_seconds" (.int 30)) 1 3600
  delay : typeOf step = some .delay → InBounds (delayOf step) 1 86400
  condition : typeOf step = some .condition →
    (∀ encounter ∈ visits (maxDepth + 1) (Dict.get step "condition"), encounter.isSound = true) ∧
      comparisonsIn (visits (maxDepth + 1) (Dict.get step "condition")) ≤ maxComparisons
  fields : typeOf step = some .analystInput →
    ∃ items, fieldsOf step = .arr items ∧ items.length ≤ 20 ∧
      ∀ field ∈ items, WellFormedField py field
  approvals : typeOf step = some .approval →
    ∃ configuration, getOr step "configuration" (.obj []) = .obj configuration ∧
      (py.int (getOr configuration "minimum_approvals" (.int 1))).isSome = true
  action : ∀ kind, typeOf step = some kind → kind.takesAction = true →
    ∃ text, Dict.get step "action_key" = .str text ∧ (ActionKey.ofText? text).isSome = true

section Issues

variable {py : Interpreter} {path key : String}

theorem inBounds_of_boundIssue {field message : String} {value : Json} {low high : Int}
    (silent : boundIssue path key field value low high message = []) : InBounds value low high := by
  unfold boundIssue at silent
  cases given : integer? value with
  | none => rw [given] at silent; cases silent
  | some number =>
    rw [given] at silent
    dsimp only at silent
    by_cases bounds : low ≤ number ∧ number ≤ high
    · exact ⟨number, given, bounds⟩
    · rw [if_neg bounds] at silent
      cases silent

theorem wellFormedField_of_silent {field : Json}
    (silent : analystFieldIssues py path key field = .ok []) : WellFormedField py field := by
  cases field with
  | obj members =>
    refine ⟨members, rfl, ?_⟩
    unfold analystFieldIssues at silent
    dsimp only at silent
    split at silent
    · cases silent
    · rename_i allowed
      rw [Bool.or_eq_true, not_or] at allowed
      refine ⟨List.contains_iff_mem.mp (by simpa using allowed.1), fun word member => ?_⟩
      exact Bool.eq_false_iff.mpr (List.any_eq_false.mp (Bool.eq_false_iff.mpr allowed.2) word
        member)
  | _ => cases silent

theorem checkEach_nil {α : Type} {check : α → Except String (List ValidationIssue)} {items : List α}
    (silent : checkEach check items = .ok []) : ∀ item ∈ items, check item = .ok [] := by
  intro item member
  obtain ⟨issues, found⟩ := exists_of_checkEach silent item member
  cases issues with
  | nil => exact found
  | cons issue rest =>
    have wrong := (mem_checkEach_iff silent issue).mpr
      ⟨item, member, _, found, List.mem_cons_self⟩
    cases wrong

theorem wellFormedFields_of_silent {step : Dict}
    (silent : analystInputIssues py path key step = .ok []) :
    ∃ items, fieldsOf step = .arr items ∧ items.length ≤ 20 ∧
      ∀ field ∈ items, WellFormedField py field := by
  unfold analystInputIssues at silent
  extract_lets fields count at silent
  have same : fields = fieldsOf step := rfl
  cases each : checkEach (analystFieldIssues py path key) fields.items with
  | error message => rw [each] at silent; cases silent
  | ok issues =>
    rw [each] at silent
    obtain ⟨uncounted, rfl⟩ := List.append_eq_nil_iff.mp (Except.ok.inj silent)
    rw [← same]
    clear_value fields
    cases fields with
    | arr items =>
      dsimp only [count] at uncounted
      refine ⟨items, rfl, ?_, fun field member =>
        wellFormedField_of_silent (checkEach_nil each field member)⟩
      by_contra many
      rw [if_pos (not_le.mp many)] at uncounted
      cases uncounted
    | _ => exact absurd uncounted (List.cons_ne_nil _ _)

end Issues

/-- The errors of a scan are the first of those of another. -/
def ReportGrows (before after : StepScan) : Prop := ∃ issues, after.errors = before.errors ++ issues

theorem ReportGrows.silent {before after : StepScan} (grows : ReportGrows before after)
    (silent : after.errors = []) : before.errors = [] := by
  obtain ⟨issues, errors⟩ := grows
  rw [errors] at silent
  exact (List.append_eq_nil_iff.mp silent).1

theorem silent_of_report {scan : StepScan} {issues : List ValidationIssue}
    (silent : (scan.report issues).errors = []) : scan.errors = [] ∧ issues = [] :=
  List.append_eq_nil_iff.mp silent

/-- What a step that is accepted leaves in the scan. -/
structure Accepts (py : Interpreter) (index : Nat) (key : String) (step : Dict)
    (before after : StepScan) : Prop where
  silent : before.errors = []
  fresh : key ∉ before.byKey.map Prod.fst
  wellFormed : WellFormedStep py index step
  byKey : after.byKey = before.byKey ++ [(key, step)]
  unplaced : before.positions.any (Json.pyEq (getOr step "position" (.int index))) = false
  positions : after.positions = before.positions ++ [getOr step "position" (.int index)]

theorem checkAction_reportGrows {steps : List Json} {triggerMode : TriggerMode}
    {policies : PolicyMaps}
    {path key : String} {action : ActionDefinition} {retries : Json} {scan after : StepScan}
    (checked : checkAction steps triggerMode policies path key action retries scan = .ok after) :
    ReportGrows scan after ∧ after.positions = scan.positions := by
  obtain ⟨issues, errors, -⟩ := (checkAction_scanned checked).errors
  refine ⟨⟨issues, errors⟩, ?_⟩
  unfold checkAction at checked
  simp only at checked
  split at checked
  · cases checked
  · cases checked
    split
    · split <;> rfl
    · split <;> rfl

theorem catalogEntry_some {value : Json} {action : ActionKey}
    (found : catalogEntry value = .ok (some action)) :
    ∃ text, value = .str text ∧ (ActionKey.ofText? text).isSome = true := by
  cases value with
  | str text =>
    have named : ActionKey.ofText? text = some action := Except.ok.inj found
    exact ⟨text, rfl, by rw [named]; rfl⟩
  | _ => cases found

theorem eq_false_of_silent {condition : Bool} {issue : ValidationIssue}
    (silent : (if condition = true then [issue] else []) = []) : condition = false := by
  cases condition with
  | false => rfl
  | true => cases silent

theorem not_of_silent {condition : Prop} [Decidable condition] {issue : ValidationIssue}
    (silent : (if condition then [issue] else []) = []) : ¬condition := by
  intro holds
  rw [if_pos holds] at silent
  cases silent

/-- **A step without an issue is well formed.** -/
theorem checkKeyedStep_accepts {py : Interpreter} {steps : List Json}
    {triggerMode : TriggerMode} {policies : PolicyMaps} {index : Nat} {path key : String}
    {step : Dict} {scan after : StepScan}
    (checked : checkKeyedStep py steps triggerMode policies index path key step scan = .ok after)
    (silent : after.errors = []) : Accepts py index key step scan after := by
  have scanned := checkKeyedStep_scanned checked
  unfold checkKeyedStep at checked
  extract_lets reported taken at checked
  split at checked
  · cases checked
  rename_i stepType typed place placed positioned retries bounded _ typeHashable
  have known : stepType = typeOf step := rfl
  clear_value stepType
  subst known
  split at checked
  · cases checked
  split at checked
  · cases checked
  rename_i conditionIssues count conditions
  split at checked
  · cases checked
  rename_i fieldIssues fields
  extract_lets listed counted at checked
  split at checked
  · cases checked
  rename_i approved approval
  -- What the rest of the step adds to the errors, and that it leaves the positions.
  have approvedGrows : ReportGrows counted approved ∧ approved.positions = counted.positions ∧
      (typeOf step = some .approval → ∃ minimum, stepMinimumApprovals py step = .ok minimum) := by
    by_cases approvalStep : typeOf step = some .approval
    · rw [if_pos approvalStep] at approval
      cases minimum : stepMinimumApprovals py step with
      | error message => rw [minimum] at approval; cases approval
      | ok number =>
        rw [minimum] at approval
        cases approval
        exact ⟨⟨[], (List.append_nil _).symm⟩, rfl, fun _ => ⟨number, rfl⟩⟩
    · rw [if_neg approvalStep] at approval
      cases approval
      exact ⟨⟨[], (List.append_nil _).symm⟩, rfl, fun same => absurd same approvalStep⟩
  have acted : ReportGrows approved after ∧ after.positions = approved.positions ∧
      ∀ kind, typeOf step = some kind → kind.takesAction = true →
        ∃ text, Dict.get step "action_key" = .str text ∧
          (ActionKey.ofText? text).isSome = true := by
    by_cases takes : typeOf step = some .action ∨ typeOf step = some .notification ∨
        typeOf step = some .caseWorkflow ∨ typeOf step = some .evidenceSnapshot
    · rw [if_pos takes] at checked
      cases entry : catalogEntry (Dict.get step "action_key") with
      | error message => rw [entry] at checked; cases checked
      | ok found =>
        rw [entry] at checked
        cases found with
        | none =>
          cases checked
          cases (silent_of_report silent).2
        | some action =>
          dsimp only at checked
          cases last : checkAction steps triggerMode policies path key action.definition retries
              approved with
          | error message => rw [last] at checked; cases checked
          | ok scan =>
            rw [last] at checked
            cases checked
            obtain ⟨grows, positions⟩ := checkAction_reportGrows last
            exact ⟨grows, positions, fun _ _ _ => catalogEntry_some entry⟩
    · rw [if_neg takes] at checked
      cases checked
      exact ⟨⟨[], (List.append_nil _).symm⟩, rfl, fun kind same act =>
        absurd (takesAction_iff.mpr ⟨kind, same, act⟩) takes⟩
  obtain ⟨grows, kept, approvals⟩ := approvedGrows
  obtain ⟨last, left, action⟩ := acted
  have countedSilent : counted.errors = [] := grows.silent (last.silent silent)
  have countedKeeps : counted.errors = listed.errors ∧ counted.positions = listed.positions := by
    dsimp only [counted]
    split <;> exact ⟨rfl, rfl⟩
  rw [countedKeeps.1] at countedSilent
  obtain ⟨boundedSilent, listedNone⟩ := silent_of_report countedSilent
  obtain ⟨conditionNone, fieldNone⟩ := List.append_eq_nil_iff.mp listedNone
  obtain ⟨positionedSilent, boundsNone⟩ := silent_of_report boundedSilent
  obtain ⟨typedSilent, placeNone⟩ := silent_of_report positionedSilent
  obtain ⟨takenSilent, typeNone⟩ := silent_of_report typedSilent
  obtain ⟨scanSilent, duplicateNone⟩ := silent_of_report takenSilent
  obtain ⟨boundsNone, delayNone⟩ := List.append_eq_nil_iff.mp boundsNone
  obtain ⟨boundsNone, timeoutNone⟩ := List.append_eq_nil_iff.mp boundsNone
  obtain ⟨retriesNone, retryDelayNone⟩ := List.append_eq_nil_iff.mp boundsNone
  obtain ⟨notInteger, unplaced⟩ := Bool.or_eq_false_iff.mp (eq_false_of_silent placeNone)
  have fresh : key ∉ scan.byKey.map Prod.fst := by
    intro member
    obtain ⟨entry, stored, same⟩ := List.mem_map.mp member
    have absent := List.any_eq_false.mp (eq_false_of_silent duplicateNone) entry stored
    exact absent (beq_iff_eq.mpr same)
  refine ⟨scanSilent, fresh, ⟨?_, ?_, inBounds_of_boundIssue retriesNone,
    inBounds_of_boundIssue retryDelayNone, inBounds_of_boundIssue timeoutNone, fun same => ?_,
    fun same => ?_, fun same => ?_, fun same => ?_, action⟩, ?_, unplaced, ?_⟩
  · exact Option.isSome_iff_ne_none.mpr (not_of_silent typeNone)
  · exact Option.isSome_iff_ne_none.mpr (of_decide_eq_false notInteger)
  · rw [if_pos same] at delayNone
    exact inBounds_of_boundIssue delayNone
  · rw [if_pos same] at conditions
    have answers := answers_conditionErrors (maxDepth + 1) (path ++ ".condition")
      (Dict.get step "condition") 0
    rw [conditions] at answers
    obtain ⟨sound, few⟩ := answers.2.2.mp conditionNone
    exact ⟨sound, by omega⟩
  · rw [if_pos same, fieldNone] at fields
    exact wellFormedFields_of_silent fields
  · exact (stepMinimumApprovals_ok_iff step).mp (approvals same)
  · rw [scanned.byKey]
    exact (keyed_of_fresh path step fresh).1
  · rw [left, kept, countedKeeps.2]
    rfl

/-! ## The steps of an accepted definition -/

/-- The positions of steps that start at a place of the list. -/
def positionsFrom (index : Nat) (named : List (String × Dict)) : List Json :=
  (named.zipIdx index).map fun entry => getOr entry.1.2 "position" (.int entry.2)

/-- A position is not one of those before it. -/
def Unplaced (earlier later : Json) : Prop := Json.pyEq later earlier = false

/-- What steps that are accepted leave in the scan. -/
structure AcceptsAll (py : Interpreter) (index : Nat) (items : List Json)
    (before after : StepScan) : Prop where
  silent : before.errors = []
  objects : items = (items.filterMap keyedItem?).map fun entry => .obj entry.2
  keys : ∀ entry ∈ items.filterMap keyedItem?,
    Dict.get entry.2 "key" = .str entry.1 ∧ matchesStepKey entry.1 = true
  byKey : after.byKey = before.byKey ++ items.filterMap keyedItem?
  distinct : (before.byKey.map Prod.fst).Nodup → (after.byKey.map Prod.fst).Nodup
  wellFormed : ∀ entry ∈ (items.filterMap keyedItem?).zipIdx index,
    WellFormedStep py entry.2 entry.1.2
  positions : after.positions = before.positions ++ positionsFrom index (items.filterMap keyedItem?)
  unplaced : before.positions.Pairwise Unplaced → after.positions.Pairwise Unplaced

theorem keyedItem?_some {item : Json} {key : String} {step : Dict}
    (found : keyedItem? item = some (key, step)) :
    item = .obj step ∧ Dict.get step "key" = .str key ∧ matchesStepKey key = true := by
  unfold keyedItem? at found
  cases item with
  | obj fields =>
    dsimp only at found
    cases given : Dict.get fields "key" with
    | str text =>
      rw [given] at found
      dsimp only at found
      split at found
      · rename_i stable
        cases found
        exact ⟨rfl, given, stable⟩
      · cases found
    | _ => rw [given] at found; cases found
  | _ => cases found

/-- **The loop over steps without an issue.** -/
theorem checkSteps_acceptsAll {py : Interpreter} {steps items : List Json}
    {triggerMode : TriggerMode} {policies : PolicyMaps} {index : Nat} {scan after : StepScan}
    (checked : checkSteps py steps triggerMode policies (items.zipIdx index) scan = .ok after)
    (silent : after.errors = []) : AcceptsAll py index items scan after := by
  induction items generalizing index scan with
  | nil =>
    cases checked
    exact ⟨silent, rfl, nofun, (List.append_nil _).symm, id, nofun, (List.append_nil _).symm, id⟩
  | cons item rest ih =>
    rw [List.zipIdx_cons, checkSteps] at checked
    cases first : checkStep py steps triggerMode policies scan (item, index) with
    | error message => rw [first] at checked; cases checked
    | ok middle =>
      rw [first] at checked
      have later := ih checked
      rcases @checkStep_eq py steps triggerMode policies item index scan with
        ⟨key, step, found, -, same⟩ | ⟨-, issue, same⟩
      · rw [same] at first
        have here := checkKeyedStep_accepts first later.silent
        obtain ⟨rfl, named, stable⟩ := keyedItem?_some found
        have listed : (Json.obj step :: rest).filterMap keyedItem? =
            (key, step) :: rest.filterMap keyedItem? := by
          rw [List.filterMap_cons, found]
        refine ⟨here.silent, ?_, ?_, ?_, fun distinct => ?_, ?_, ?_, fun unplaced => ?_⟩
        · rw [listed, List.map_cons, ← later.objects]
        · rw [listed]
          exact List.forall_mem_cons.mpr ⟨⟨named, stable⟩, later.keys⟩
        · rw [listed, later.byKey, here.byKey, List.append_assoc, List.singleton_append]
        · refine later.distinct ?_
          rw [here.byKey, List.map_append, List.map_singleton, ← List.concat_eq_append]
          exact distinct.concat here.fresh
        · rw [listed, List.zipIdx_cons]
          exact List.forall_mem_cons.mpr ⟨here.wellFormed, later.wellFormed⟩
        · rw [listed, later.positions, here.positions, List.append_assoc,
            List.singleton_append]
          rfl
        · refine later.unplaced ?_
          rw [here.positions, List.pairwise_append]
          refine ⟨unplaced, List.pairwise_singleton _ _, fun earlier member place last => ?_⟩
          rw [List.mem_singleton.mp last]
          exact Bool.eq_false_iff.mpr (List.any_eq_false.mp here.unplaced earlier member)
      · rw [same] at first
        cases first
        cases (silent_of_report later.silent).2

/-! ## Accepted definitions -/

/-- A definition as the validator asks for it. -/
structure WellFormed (py : Interpreter) (fields : Dict) : Prop where
  root : ∀ field ∈ fields, field.1 ∈ supportedRoot
  declared : ∃ members, getOr fields "variables" (.obj []) = .obj members ∧ members.length ≤ 100
  steps : ∃ items, Dict.get fields "steps" = .arr items ∧ 1 ≤ items.length ∧ items.length ≤ 50 ∧
    KeyedSteps items (checkedSteps fields)
  each : ∀ entry ∈ (checkedSteps fields).zipIdx, WellFormedStep py entry.2 entry.1.2
  positions : (positionsFrom 0 (checkedSteps fields)).Pairwise Unplaced
  start : ∃ key step, Dict.get fields "start_step" = .str key ∧ (key, step) ∈ checkedSteps fields
  routes : ∀ entry ∈ checkedSteps fields, ∀ route ∈ routesOf entry.2,
    ∃ target step, route = .str target ∧ target ≠ entry.1 ∧ (target, step) ∈ checkedSteps fields

theorem exists_of_stepOf {byKey : List (String × Dict)} {key : String}
    (found : (stepOf byKey key).isSome = true) : ∃ step, (key, step) ∈ byKey := by
  obtain ⟨step, found⟩ := Option.isSome_iff_exists.mp found
  obtain ⟨⟨name, other⟩, listed, rfl⟩ := Option.map_eq_some_iff.mp found
  have named := List.find?_some listed
  obtain rfl : name = key := beq_iff_eq.mp named
  exact ⟨_, List.mem_of_find?_eq_some listed⟩

theorem routes_of_silent {py : Interpreter} {byKey : List (String × Dict)}
    (silent : checkEach (fun entry : String × Dict =>
      routeIssues py byKey entry.1 (routesOf entry.2)) byKey = .ok []) :
    ∀ entry ∈ byKey, ∀ route ∈ routesOf entry.2,
      ∃ target step, route = .str target ∧ target ≠ entry.1 ∧ (target, step) ∈ byKey := by
  intro entry member route listed
  have here := checkEach_nil (checkEach_nil silent entry member) route listed
  rcases routeIssue_cases here with ⟨-, wrong⟩ | ⟨other, -, text, same, known⟩ | ⟨-, wrong⟩
  · cases wrong
  · obtain ⟨step, stored⟩ := exists_of_stepOf known
    refine ⟨text, step, same, fun equal => other ?_, stored⟩
    rw [same, equal]
  · cases wrong

/-- **What the validator accepts is well formed.** -/
theorem wellFormed_of_valid {py : Interpreter} {fields : Dict} {triggerMode : TriggerMode}
    {policies : PolicyMaps} {result : ValidationResult}
    (validated : validateDefinition py (.obj fields) triggerMode policies = .ok result)
    (valid : result.valid = true) : WellFormed py fields := by
  unfold validateDefinition at validated
  split at validated
  · cases validated
  extract_lets oversized at validated
  dsimp -zeta only at validated
  extract_lets rootErrors variableErrors startValue estimated at validated
  generalize loop : Prod.snd _ = steps at validated
  generalize issues : Prod.fst _ = stepErrors at validated
  split at validated
  · cases validated
  rename_i scan looped
  extract_lets counted start reported at validated
  split at validated
  · cases validated
  rename_i started
  split at validated
  · cases validated
  rename_i routeErrors routes
  extract_lets warned adjacency reachable unreachable terminal graphed at validated
  split at validated
  · cases validated
  split at validated
  · cases validated
  cases validated
  have silent := List.isEmpty_iff.mp valid
  obtain ⟨graphedSilent, -⟩ := silent_of_report silent
  obtain ⟨warnedSilent, -⟩ := silent_of_report graphedSilent
  obtain ⟨reportedSilent, rfl⟩ := silent_of_report warnedSilent
  obtain ⟨countedSilent, startNone⟩ := silent_of_report reportedSilent
  obtain ⟨scanSilent, -⟩ := silent_of_report countedSilent
  have all := checkSteps_acceptsAll looped scanSilent
  obtain ⟨earlySilent, rfl⟩ := List.append_eq_nil_iff.mp all.silent
  obtain ⟨rootSilent, variableSilent⟩ := List.append_eq_nil_iff.mp earlySilent
  obtain ⟨-, fieldsSilent⟩ := List.append_eq_nil_iff.mp rootSilent
  -- Without an issue about their number, the steps are those that the loop has gone through.
  have listed : ∃ items, Dict.get fields "steps" = .arr items ∧ 1 ≤ items.length ∧
      items.length ≤ 50 ∧ steps = items ∧ loopItems fields = items := by
    unfold loopItems
    cases given : Dict.get fields "steps" with
    | arr items =>
      rw [given] at issues loop
      dsimp only at issues loop ⊢
      by_cases bounded : 1 ≤ items.length ∧ items.length ≤ 50
      · rw [if_pos bounded] at loop
        exact ⟨items, rfl, bounded.1, bounded.2, loop.symm, if_pos bounded⟩
      · rw [if_neg bounded] at issues
        cases issues
    | _ =>
      rw [given] at issues
      cases issues
  obtain ⟨items, given, some_, few, rfl, looped⟩ := listed
  have checkedSteps_eq : checkedSteps fields = steps.filterMap keyedItem? := by
    rw [checkedSteps, looped]
  have byKey : scan.byKey = checkedSteps fields := by
    rw [all.byKey, checkedSteps_eq]
    rfl
  refine ⟨?_, ?_, ⟨steps, given, some_, few, ?_, ?_, ?_⟩, ?_, ?_, ?_, ?_⟩
  · intro field member
    have here := List.flatMap_eq_nil_iff.mp fieldsSilent field member
    by_contra foreign
    rw [if_neg (fun known => foreign (List.contains_iff_mem.mp known))] at here
    cases here
  · dsimp only [variableErrors] at variableSilent
    cases declared : getOr fields "variables" (.obj []) with
    | obj members =>
      rw [declared] at variableSilent
      exact ⟨members, rfl, not_lt.mp (not_of_silent variableSilent)⟩
    | _ =>
      rw [declared] at variableSilent
      cases variableSilent
  · rw [checkedSteps_eq]
    exact all.objects
  · rw [checkedSteps_eq]
    exact all.keys
  · rw [← byKey]
    exact all.distinct List.nodup_nil
  · rw [checkedSteps_eq]
    exact all.wellFormed
  · rw [checkedSteps_eq]
    have positions := all.unplaced List.Pairwise.nil
    rw [all.positions] at positions
    exact positions
  · obtain ⟨key, found⟩ := Option.ne_none_iff_exists'.mp (not_of_silent startNone)
    obtain ⟨named, known⟩ := Option.filter_eq_some_iff.mp found
    obtain ⟨step, stored⟩ := exists_of_stepOf known
    have text : Dict.get fields "start_step" = .str key := by
      change (Dict.get fields "start_step").str? = some key at named
      cases value : Dict.get fields "start_step" with
      | str other =>
        rw [value] at named
        rw [Option.some.inj named]
      | _ => rw [value] at named; cases named
    exact ⟨key, step, text, byKey ▸ stored⟩
  · rw [← byKey]
    exact routes_of_silent routes

/-- **The validator on every object**: it returns a result, which is not valid when the definition
is malformed, exactly on the definitions on which no check raises. -/
theorem validateDefinition_total_iff (py : Interpreter) (fields : Dict)
    (triggerMode : TriggerMode) (policies : PolicyMaps) :
    (∃ result, validateDefinition py (.obj fields) triggerMode policies = .ok result ∧
      (¬WellFormed py fields → result.valid = false)) ↔ Checkable py fields := by
  rw [← validateDefinition_ok_iff fields triggerMode policies]
  constructor
  · rintro ⟨result, validated, -⟩
    exact ⟨result, validated⟩
  · rintro ⟨result, validated⟩
    refine ⟨result, validated, fun malformed => ?_⟩
    by_contra valid
    exact malformed (wellFormed_of_valid validated (Bool.not_eq_false _ ▸ valid))

theorem null_steps_raise :
    ¬∀ (py : Interpreter) (fields : Dict) (triggerMode : TriggerMode) (policies : PolicyMaps),
      ∃ result, validateDefinition py (.obj fields) triggerMode policies = .ok result ∧
        (¬WellFormed py fields → result.valid = false) := by
  intro total
  obtain ⟨result, validated, -⟩ := total bareRuntime [("steps", .null)] .manual noPolicies
  have checkable := (validateDefinition_ok_iff [("steps", .null)] .manual noPolicies).mp
    ⟨result, validated⟩
  exact checkable.placed

end ThreatScope.Soar
