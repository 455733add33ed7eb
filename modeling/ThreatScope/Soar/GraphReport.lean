import ThreatScope.Soar.RouteGraph

/-!
# What a report says about the route graph

Every issue that the checks of the root and of the steps report names a place of the
definition other than `steps` itself, so the issues about the graph are told apart from
them. The report therefore names a cycle, a step that routes to itself, and a missing end
exactly when the graph has one, as far as the hundred issues it keeps reach
(`validateDefinition_graph`), and the walks of an accepted definition are finite.
-/

set_option autoImplicit false

namespace ThreatScope.Soar

open Library

/-! ## The places of the other issues -/

/-- The issue names a place at or under the given one. -/
def ValidationIssue.Under (front : String) (issue : ValidationIssue) : Prop :=
  ∃ tail, issue.path = some (front ++ tail)

theorem ValidationIssue.Under.mono {front middle : String} {issue : ValidationIssue}
    (under : issue.Under (front ++ middle)) : issue.Under front := by
  obtain ⟨tail, path⟩ := under
  exact ⟨middle ++ tail, by rw [path, String.append_assoc]⟩

theorem under_of_path {front : String} {issue : ValidationIssue} (path : issue.path = some front) :
    issue.Under front := ⟨"", by rw [path, String.append_empty]⟩

theorem under_stepIssue (front tail key message : String) :
    (stepIssue (front ++ tail) key message).Under front := ⟨tail, rfl⟩

/-- All issues are under a place. -/
abbrev AllUnder (front : String) (issues : List ValidationIssue) : Prop :=
  ∀ issue ∈ issues, issue.Under front

theorem allUnder_nil (front : String) : AllUnder front [] :=
  fun _ none => absurd none List.not_mem_nil

theorem AllUnder.append {front : String} {issues others : List ValidationIssue}
    (under : AllUnder front issues) (also : AllUnder front others) :
    AllUnder front (issues ++ others) := by
  intro issue member
  rcases List.mem_append.mp member with first | second
  · exact under issue first
  · exact also issue second

theorem allUnder_singleton {front : String} {issue : ValidationIssue}
    (under : issue.Under front) : AllUnder front [issue] := by
  intro other member
  rwa [List.mem_singleton.mp member]

theorem allUnder_ite {front : String} {condition : Prop} [Decidable condition]
    {issues : List ValidationIssue} (under : AllUnder front issues) :
    AllUnder front (if condition then issues else []) := by
  split
  · exact under
  · exact allUnder_nil front

theorem AllUnder.mono {front middle : String} {issues : List ValidationIssue}
    (under : AllUnder (front ++ middle) issues) : AllUnder front issues :=
  fun issue member => (under issue member).mono

/-- So for the forbidden keys. -/
theorem walkForbidden_under (py : Interpreter) (levels : Nat) (path : String) (value : Json) :
    AllUnder path (walkForbidden py levels path value) := by
  induction levels generalizing path value with
  | zero => exact allUnder_singleton (under_of_path rfl)
  | succ levels ih =>
    cases value with
    | obj fields =>
      intro issue member
      rw [walkForbidden] at member
      obtain ⟨⟨key, item⟩, -, inside⟩ := List.mem_flatMap.mp member
      have place : path ++ "." ++ key = path ++ ("." ++ key) := String.append_assoc
      rcases List.mem_append.mp inside with here | below
      · have issues : AllUnder path [issueAt (path ++ "." ++ key)
            "Executable, network, SQL, or internal-object fields are prohibited"] :=
          allUnder_singleton ⟨"." ++ key, by rw [← place]; rfl⟩
        exact allUnder_ite issues issue here
      · have under := ih (path ++ "." ++ key) item issue below
        rw [place] at under
        exact under.mono
    | arr items =>
      intro issue member
      rw [walkForbidden] at member
      obtain ⟨⟨item, index⟩, -, inside⟩ := List.mem_flatMap.mp member
      have under := ih _ item issue inside
      rw [String.append_assoc, String.append_assoc] at under
      exact under.mono
    | str text =>
      rw [walkForbidden]
      exact allUnder_ite (allUnder_singleton (under_of_path rfl))
    | null => exact allUnder_nil path
    | bool _ => exact allUnder_nil path
    | int _ => exact allUnder_nil path
    | float _ => exact allUnder_nil path

theorem boundIssue_under (path key field : String) (value : Json) (low high : Int)
    (message : String) : AllUnder path (boundIssue path key field value low high message) := by
  have issue : AllUnder path [stepIssue (path ++ "." ++ field) key message] :=
    allUnder_singleton ⟨"." ++ field, by rw [← String.append_assoc]; rfl⟩
  unfold boundIssue
  split
  · split
    · exact allUnder_nil path
    · exact issue
  · exact issue

theorem checkEach_under {α : Type} {check : α → Except String (List ValidationIssue)}
    {front : String} (each : ∀ item issues, check item = .ok issues → AllUnder front issues)
    {items : List α} {issues : List ValidationIssue}
    (checked : checkEach check items = .ok issues) :
    AllUnder front issues := by
  induction items generalizing issues with
  | nil =>
    cases checked
    exact allUnder_nil front
  | cons item rest ih =>
    rw [checkEach] at checked
    split at checked
    · cases checked
    · rename_i first here
      split at checked
      · cases checked
      · rename_i later after
        cases checked
        exact (each item first here).append (ih after)

theorem analystFieldIssues_under (py : Interpreter) (path key : String) (field : Json)
    (issues : List ValidationIssue)
    (checked : analystFieldIssues py path key field = .ok issues) : AllUnder path issues := by
  unfold analystFieldIssues at checked
  split at checked
  · simp only at checked
    split at checked
    · cases checked
      exact allUnder_singleton (under_stepIssue path _ key _)
    · cases checked
      exact allUnder_nil path
  · cases checked

theorem analystInputIssues_under {py : Interpreter} {path key : String} {step : Dict}
    {issues : List ValidationIssue} (checked : analystInputIssues py path key step = .ok issues) :
    AllUnder path issues := by
  unfold analystInputIssues at checked
  simp only at checked
  split at checked
  · cases checked
  · rename_i others each
    cases checked
    apply AllUnder.append
    · split
      · exact allUnder_ite (allUnder_singleton (under_stepIssue path _ key _))
      · exact allUnder_singleton (under_stepIssue path _ key _)
    · exact checkEach_under (analystFieldIssues_under py path key) each

theorem conditionErrorsEach_under
    {one : String → Json → Nat → Except String (List ValidationIssue × Nat)}
    (each : ∀ path node count result, one path node count = .ok result → AllUnder path result.1)
    {path : String} {items : List (Json × Nat)} {count : Nat} {result : List ValidationIssue × Nat}
    (checked : conditionErrorsEach one path items count = .ok result) : AllUnder path result.1 := by
  induction items generalizing count result with
  | nil =>
    cases checked
    exact allUnder_nil path
  | cons item rest ih =>
    obtain ⟨child, index⟩ := item
    rw [conditionErrorsEach] at checked
    split at checked
    · cases checked
    · rename_i errors middle here
      split at checked
      · cases checked
      · rename_i later final after
        cases checked
        have first := each _ child count _ here
        rw [String.append_assoc, String.append_assoc] at first
        exact first.mono.append (ih after)

/-- Every issue of a condition is under the path of the condition. -/
theorem conditionErrors_under (levels : Nat) (path : String) (node : Json) (count : Nat)
    (result : List ValidationIssue × Nat)
    (checked : conditionErrors levels path node count = .ok result) : AllUnder path result.1 := by
  have here (message : String) : AllUnder path [issueAt path message] :=
    allUnder_singleton (under_of_path rfl)
  induction levels generalizing path node count result with
  | zero =>
    cases checked
    exact here _
  | succ levels ih =>
    rw [conditionErrors] at checked
    split at checked
    · cases checked
    · cases checked
      exact here _
    · rename_i fields text operator found
      split at checked
      · split at checked
        · split at checked
          · exact conditionErrorsEach_under
              (fun path node count result done => ih path node count result done
                fun message => allUnder_singleton (under_of_path rfl)) checked
          · cases checked
            exact here _
        · cases checked
          exact here _
      · split at checked
        · have below := ih _ _ count result checked
            fun message => allUnder_singleton (under_of_path rfl)
          exact below.mono
        · cases checked
          apply AllUnder.append (allUnder_ite (here _))
          intro issue member
          obtain ⟨side, -, inside⟩ := List.mem_flatMap.mp member
          split at inside
          · split at inside
            · cases inside
            · rw [List.mem_singleton.mp inside]
              exact ⟨"." ++ side, by rw [← String.append_assoc]; rfl⟩
          · cases inside

/-! ## The loop over the steps -/

/-- What the checks of a step do to the scan: they add issues under its path, and the rest of
them leaves the steps by key. -/
structure Scanned (path : String) (before after : StepScan) : Prop where
  byKey : after.byKey = before.byKey
  errors : ∃ issues, after.errors = before.errors ++ issues ∧ AllUnder path issues

theorem Scanned.refl (path : String) (scan : StepScan) : Scanned path scan scan :=
  ⟨rfl, [], (List.append_nil _).symm, allUnder_nil path⟩

theorem Scanned.trans {path : String} {before middle after : StepScan}
    (first : Scanned path before middle) (second : Scanned path middle after) :
    Scanned path before after := by
  obtain ⟨issues, errors, under⟩ := first.errors
  obtain ⟨others, more, also⟩ := second.errors
  refine ⟨second.byKey.trans first.byKey, issues ++ others, ?_, under.append also⟩
  rw [more, errors, List.append_assoc]

theorem Scanned.report {path : String} {before after : StepScan} {issues : List ValidationIssue}
    (scanned : Scanned path before after) (under : AllUnder path issues) :
    Scanned path before (after.report issues) :=
  scanned.trans ⟨rfl, issues, rfl, under⟩

theorem checkAction_scanned {steps : List Json} {triggerMode : TriggerMode} {policies : PolicyMaps}
    {path key : String} {action : ActionDefinition} {retries : Json} {scan after : StepScan}
    (checked : checkAction steps triggerMode policies path key action retries scan = .ok after) :
    Scanned path scan after := by
  unfold checkAction at checked
  simp only at checked
  split at checked
  · cases checked
  · rename_i approved _
    cases checked
    have sensitive : AllUnder path (if approved = true then []
        else [⟨"SOAR_APPROVAL_REQUIRED", some path, some key,
          "Sensitive actions require an approval step"⟩]) := by
      split
      · exact allUnder_nil path
      · exact allUnder_singleton (under_of_path rfl)
    have automatic : AllUnder path [⟨"SOAR_ACTION_POLICY_VIOLATION", some path, some key,
        "Action is not explicitly policy-enabled for automatic-local execution"⟩] :=
      allUnder_singleton (under_of_path rfl)
    split
    · split
      · exact ⟨rfl, _, List.append_assoc _ _ _, sensitive.append automatic⟩
      · exact ⟨rfl, _, List.append_assoc _ _ _, sensitive.append automatic⟩
    · split
      · exact ⟨rfl, _, rfl, sensitive⟩
      · exact ⟨rfl, _, rfl, sensitive⟩

/-- The scan after the key of a step is taken. -/
def keyed (path key : String) (step : Dict) (scan : StepScan) : StepScan :=
  { scan.report (if scan.byKey.any fun entry => entry.1 == key then
        [stepIssue (path ++ ".key") key "Duplicate stable step key"]
      else []) with byKey := setStep scan.byKey key step }

/-- **A step adds its key and issues under its path.** -/
theorem checkKeyedStep_scanned {py : Interpreter} {steps : List Json}
    {triggerMode : TriggerMode} {policies : PolicyMaps} {index : Nat} {path key : String}
    {step : Dict} {scan after : StepScan}
    (checked : checkKeyedStep py steps triggerMode policies index path key step scan =
      .ok after) : Scanned path (keyed path key step scan) after := by
  unfold checkKeyedStep at checked
  extract_lets reported taken at checked
  have start : Scanned path (keyed path key step scan) taken := .refl path _
  clear_value taken
  split at checked
  · cases checked
  rename_i stepType typed position placed positioned retries bounded _ _
  have typedScan : Scanned path (keyed path key step scan) typed :=
    start.report (allUnder_ite (allUnder_singleton (under_stepIssue path ".type" key _)))
  have placedScan : Scanned path (keyed path key step scan) placed :=
    typedScan.report (allUnder_ite (allUnder_singleton (under_stepIssue path ".position" key _)))
  have boundedScan : Scanned path (keyed path key step scan) bounded := by
    have positions : Scanned path (keyed path key step scan) positioned :=
      placedScan.trans ⟨rfl, [], (List.append_nil _).symm, allUnder_nil path⟩
    apply positions.report
    refine ((AllUnder.append ?_ ?_).append ?_).append ?_
    · exact boundIssue_under path key _ _ _ _ _
    · exact boundIssue_under path key _ _ _ _ _
    · exact boundIssue_under path key _ _ _ _ _
    · exact allUnder_ite (boundIssue_under path key _ _ _ _ _)
  clear_value typed placed positioned bounded
  split at checked
  · cases checked
  split at checked
  · cases checked
  rename_i conditionIssues count conditions
  split at checked
  · cases checked
  rename_i fieldIssues fields
  extract_lets listed counted at checked
  have countedScan : Scanned path (keyed path key step scan) counted := by
    have both : Scanned path (keyed path key step scan) listed := by
      apply boundedScan.report
      apply AllUnder.append
      · split at conditions
        · have under := conditionErrors_under _ _ _ _ _ conditions
          exact under.mono
        · cases conditions
          exact allUnder_nil path
      · split at fields
        · exact analystInputIssues_under fields
        · cases fields
          exact allUnder_nil path
    apply both.trans
    show Scanned path listed (if _ then _ else _)
    split
    · exact ⟨rfl, [], (List.append_nil _).symm, allUnder_nil path⟩
    · exact .refl path _
  clear_value listed counted
  split at checked
  · cases checked
  rename_i approved approval
  have approvedScan : Scanned path (keyed path key step scan) approved := by
    apply countedScan.trans
    split at approval
    · split at approval
      · cases approval
      · cases approval
        exact ⟨rfl, [], (List.append_nil _).symm, allUnder_nil path⟩
    · cases approval
      exact .refl path _
  split at checked
  · split at checked
    · cases checked
    · cases checked
      exact approvedScan.report (allUnder_singleton ⟨".action_key", rfl⟩)
    · split at checked
      · cases checked
      · rename_i last action
        cases checked
        apply (approvedScan.trans (checkAction_scanned action)).trans
        exact ⟨rfl, [], (List.append_nil _).symm, allUnder_nil path⟩
  · cases checked
    apply approvedScan.trans
    exact ⟨rfl, [], (List.append_nil _).symm, allUnder_nil path⟩

/-- Steps that are objects, each under a stable key of its own. -/
structure KeyedSteps (steps : List Json) (byKey : List (String × Dict)) : Prop where
  objects : steps = byKey.map fun entry => .obj entry.2
  keys : ∀ entry ∈ byKey,
    Dict.get entry.2 "key" = .str entry.1 ∧ matchesStepKey entry.1 = true
  distinct : (byKey.map Prod.fst).Nodup

theorem keyed_of_fresh (path : String) {key : String} (step : Dict) {scan : StepScan}
    (fresh : key ∉ scan.byKey.map Prod.fst) :
    (keyed path key step scan).byKey = scan.byKey ++ [(key, step)] ∧
      (keyed path key step scan).errors = scan.errors := by
  have absent : (scan.byKey.any fun entry => entry.1 == key) = false := by
    rw [List.any_eq_false]
    intro entry member same
    exact fresh (List.mem_map.mpr ⟨entry, member, by simpa using same⟩)
  constructor
  · simp only [keyed, setStep, absent, Bool.false_eq_true, if_false]
  · simp only [keyed, StepScan.report, absent, Bool.false_eq_true, if_false, List.append_nil]

/-- **The loop over keyed steps collects them in order**, and its issues name places under
them. -/
theorem checkSteps_scanned {py : Interpreter} {steps : List Json} {triggerMode : TriggerMode}
    {policies : PolicyMaps} {rest : List (String × Dict)} {index : Nat} {scan after : StepScan}
    (keys : ∀ entry ∈ rest, Dict.get entry.2 "key" = .str entry.1 ∧ matchesStepKey entry.1 = true)
    (distinct : ((scan.byKey ++ rest).map Prod.fst).Nodup)
    (checked : checkSteps py steps triggerMode policies
      ((rest.map fun entry => Json.obj entry.2).zipIdx index) scan = .ok after) :
    after.byKey = scan.byKey ++ rest ∧
      ∃ issues, after.errors = scan.errors ++ issues ∧ AllUnder "steps[" issues := by
  induction rest generalizing index scan with
  | nil =>
    cases checked
    exact ⟨(List.append_nil _).symm, [], (List.append_nil _).symm, allUnder_nil _⟩
  | cons entry rest ih =>
    obtain ⟨key, step⟩ := entry
    obtain ⟨named, stable⟩ := keys (key, step) (List.mem_cons_self ..)
    rw [List.map_cons, List.zipIdx_cons, checkSteps, checkStep] at checked
    simp only [named, stable, if_true] at checked
    split at checked
    · cases checked
    · rename_i middle first
      have scanned := checkKeyedStep_scanned first
      have fresh : key ∉ scan.byKey.map Prod.fst := by
        rw [List.map_append, List.nodup_append] at distinct
        intro member
        exact distinct.2.2 key member key (by simp) rfl
      obtain ⟨byKey, errors⟩ := keyed_of_fresh ("steps[" ++ toString index ++ "]") step fresh
      have taken : middle.byKey = scan.byKey ++ [(key, step)] := scanned.byKey.trans byKey
      obtain ⟨issues, added, under⟩ := scanned.errors
      rw [String.append_assoc] at under
      have tailKeys : ((middle.byKey ++ rest).map Prod.fst).Nodup := by
        rwa [taken, List.append_assoc]
      obtain ⟨last, others, more, also⟩ :=
        ih (fun entry member => keys entry (.tail _ member)) tailKeys checked
      refine ⟨?_, issues ++ others, ?_, under.mono.append also⟩
      · rw [last, taken, List.append_assoc]
        rfl
      · rw [more, added, errors, List.append_assoc]

/-! ## The issues about the graph -/

/-- The issue of a cycle. -/
def cycleIssue : ValidationIssue :=
  issueAt "steps" "Cycles and recursive playbooks are prohibited"

/-- The issue of a missing end. -/
def endIssue : ValidationIssue := issueAt "steps" "No reachable terminal end step"

/-- The issue of a step that routes to itself. -/
def selfLoopIssue (key : String) : ValidationIssue := keyIssue key "Self-loop is prohibited"

/-- An issue that is none about the graph. -/
structure Plain (issue : ValidationIssue) : Prop where
  cycle : issue ≠ cycleIssue
  missingEnd : issue ≠ endIssue
  selfLoop : ∀ key, issue ≠ selfLoopIssue key

theorem plain_of_path {issue : ValidationIssue} {path : String} (named : issue.path = some path)
    (apart : path ≠ "steps") : Plain issue where
  cycle same := apart (Option.some.inj (named.symm.trans (congrArg ValidationIssue.path same)))
  missingEnd same := apart (Option.some.inj (named.symm.trans (congrArg ValidationIssue.path same)))
  selfLoop key same := by
    have wrong := named.symm.trans (congrArg ValidationIssue.path same)
    cases wrong

theorem plain_of_message {message : String}
    (cycle : message ≠ "Cycles and recursive playbooks are prohibited")
    (missingEnd : message ≠ "No reachable terminal end step") :
      Plain (issueAt "steps" message) where
  cycle same := cycle (congrArg ValidationIssue.message same)
  missingEnd same := missingEnd (congrArg ValidationIssue.message same)
  selfLoop key same := by
    have wrong := congrArg ValidationIssue.path same
    cases wrong

/-- No issue is about the graph. -/
abbrev AllPlain (issues : List ValidationIssue) : Prop := ∀ issue ∈ issues, Plain issue

theorem AllPlain.append {issues others : List ValidationIssue} (plain : AllPlain issues)
    (also : AllPlain others) : AllPlain (issues ++ others) := by
  intro issue member
  rcases List.mem_append.mp member with first | second
  · exact plain issue first
  · exact also issue second

theorem allPlain_singleton {issue : ValidationIssue} (plain : Plain issue) : AllPlain [issue] := by
  intro other member
  rwa [List.mem_singleton.mp member]

theorem allPlain_ite {condition : Prop} [Decidable condition] {issues : List ValidationIssue}
    (plain : AllPlain issues) : AllPlain (if condition then issues else []) := by
  split
  · exact plain
  · exact fun _ none => absurd none List.not_mem_nil

theorem allPlain_of_allUnder {front : String} {issues : List ValidationIssue}
    (under : AllUnder front issues) (long : 5 < front.length) : AllPlain issues := by
  intro issue member
  obtain ⟨tail, path⟩ := under issue member
  apply plain_of_path path
  intro same
  have lengths := congrArg String.length same
  rw [String.length_append] at lengths
  have short : "steps".length = 5 := by decide
  omega

/-- The keys that the search does not reach, in order. -/
def unreachableKeys (byKey : List (String × Dict)) (start : Option String) : List String :=
  sortTexts ((byKey.map Prod.fst).filter fun key =>
    !(reachableFrom (adjacencyOf byKey) start).contains key)

/-- Whether an end step is reachable. -/
def reachesEnd (byKey : List (String × Dict)) (start : Option String) : Bool :=
  (reachableFrom (adjacencyOf byKey) start).any fun key =>
    (stepOf byKey key).any fun step => (Dict.get step "type").isStr "end"

/-- The issues of the two searches. -/
def graphIssues (byKey : List (String × Dict)) (start : Option String) : List ValidationIssue :=
  (unreachableKeys byKey start).map (fun key => keyIssue key "Step is unreachable") ++
    (if hasCycle (adjacencyOf byKey) start then [cycleIssue] else []) ++
    if reachesEnd byKey start then [] else [endIssue]

/-- The start step, when it exists. -/
def startOf (fields : Dict) (byKey : List (String × Dict)) : Option String :=
  (Dict.get fields "start_step").str?.filter fun text => (stepOf byKey text).isSome

/-- The parts a report is made of. -/
structure Report (py : Interpreter) (fields : Dict) (byKey : List (String × Dict))
    (result : ValidationResult) where
  early : List ValidationIssue
  routeErrors : List ValidationIssue
  late : List ValidationIssue
  early_plain : AllPlain early
  routes : checkEach (fun entry : String × Dict =>
    routeIssues py byKey entry.1 (routesOf entry.2)) byKey = .ok routeErrors
  late_plain : AllPlain late
  errors : result.errors =
    (early ++ routeErrors ++ graphIssues byKey (startOf fields byKey) ++ late).take 100
  valid : result.valid =
    (early ++ routeErrors ++ graphIssues byKey (startOf fields byKey) ++ late).isEmpty
  unreachable : result.unreachableSteps = unreachableKeys byKey (startOf fields byKey)
  start : early = [] → startOf fields byKey ≠ none

/-- **The parts of the report of keyed steps.** -/
theorem exists_report {py : Interpreter} {fields : Dict} {triggerMode : TriggerMode}
    {policies : PolicyMaps} {steps : List Json} {byKey : List (String × Dict)}
    {result : ValidationResult} (listed : Dict.get fields "steps" = .arr steps)
    (size : 1 ≤ steps.length ∧ steps.length ≤ 50) (keyed : KeyedSteps steps byKey)
    (validated : validateDefinition py (.obj fields) triggerMode policies = .ok result) :
    Nonempty (Report py fields byKey result) := by
  unfold validateDefinition at validated
  split at validated
  · cases validated
  extract_lets oversized at validated
  dsimp -zeta only at validated
  extract_lets rootErrors variableErrors at validated
  rw [listed] at validated
  dsimp -zeta only at validated
  rw [if_pos size] at validated
  dsimp -zeta only at validated
  split at validated
  · cases validated
  rename_i scan looped
  extract_lets counted start at validated
  split at validated
  · cases validated
  split at validated
  · cases validated
  rename_i started _ _ _ routeErrors routes
  split at validated
  · cases validated
  extract_lets at validated
  split at validated
  · cases validated
  cases validated
  have loop : checkSteps py steps triggerMode policies
      ((byKey.map fun entry => Json.obj entry.2).zipIdx 0)
      { errors := rootErrors ++ variableErrors ++ [] } = .ok scan := by
    rw [← keyed.objects]
    exact looped
  obtain ⟨collected, issues, added, under⟩ :=
    checkSteps_scanned keyed.keys (by exact keyed.distinct) loop
  rw [List.nil_append] at collected
  subst collected
  refine ⟨⟨started.errors, routeErrors, _, ?_, routes, ?_, rfl, rfl, rfl, ?_⟩⟩
  · have root : AllPlain rootErrors := by
      have size : AllPlain oversized := by
        have issue (message : String) : AllPlain [issueAt "definition" message] :=
          allPlain_singleton (plain_of_path rfl (by decide))
        dsimp only [oversized]
        split
        · exact issue _
        · exact allPlain_ite (issue _)
      have forbidden := allPlain_of_allUnder
        (walkForbidden_under py 13 "definition" (.obj fields)) (by decide)
      apply (size.append forbidden).append
      intro issue member
      obtain ⟨field, -, inside⟩ := List.mem_flatMap.mp member
      split at inside
      · cases inside
      · rename_i foreign
        rw [List.mem_singleton.mp inside]
        apply plain_of_path rfl
        intro same
        rw [same] at foreign
        exact foreign (by decide)
    have declared : AllPlain variableErrors := by
      have issue : AllPlain [issueAt "variables"
          "Variables must be an object with at most 100 entries"] :=
        allPlain_singleton (plain_of_path rfl (by decide))
      dsimp only [variableErrors]
      split
      · exact allPlain_ite issue
      · exact issue
    have scanned : AllPlain scan.errors := by
      rw [added, List.append_nil]
      exact (root.append declared).append (allPlain_of_allUnder under (by decide))
    have counts : AllPlain counted.errors := by
      apply scanned.append
      apply AllPlain.append
      · exact allPlain_ite (allPlain_singleton (plain_of_message (by decide) (by decide)))
      · exact allPlain_ite (allPlain_singleton (plain_of_message (by decide) (by decide)))
    exact counts.append (allPlain_ite (allPlain_singleton (plain_of_path rfl (by decide))))
  · exact allPlain_ite (allPlain_singleton (plain_of_message (by decide) (by decide)))

  · intro nothing missing
    have issue := (List.append_eq_nil_iff.mp nothing).2
    have absent : start = none := missing
    rw [if_pos absent] at issue
    cases issue

/-! ## Routes that fail their check -/

theorem exists_of_checkEach {α : Type} {check : α → Except String (List ValidationIssue)}
    {items : List α} {issues : List ValidationIssue}
    (checked : checkEach check items = .ok issues) :
    ∀ item ∈ items, ∃ found, check item = .ok found := by
  induction items generalizing issues with
  | nil => exact fun item none => absurd none List.not_mem_nil
  | cons head rest ih =>
    rw [checkEach] at checked
    split at checked
    · cases checked
    · rename_i first here
      split at checked
      · cases checked
      · rename_i later after
        intro item member
        rcases List.mem_cons.mp member with rfl | inside
        · exact ⟨first, here⟩
        · exact ih after item inside

theorem mem_checkEach_iff {α : Type} {check : α → Except String (List ValidationIssue)}
    {items : List α} {issues : List ValidationIssue} (checked : checkEach check items = .ok issues)
    (issue : ValidationIssue) :
    issue ∈ issues ↔ ∃ item ∈ items, ∃ found, check item = .ok found ∧ issue ∈ found := by
  induction items generalizing issues with
  | nil =>
    cases checked
    simp
  | cons head rest ih =>
    rw [checkEach] at checked
    split at checked
    · cases checked
    · rename_i first here
      split at checked
      · cases checked
      · rename_i later after
        cases checked
        simp [ih after, here]

theorem isStr_iff (text : String) (value : Json) : value.isStr text = true ↔ value = .str text := by
  cases value <;> simp [Json.isStr]

theorem routeIssue_cases {py : Interpreter} {byKey : List (String × Dict)} {key : String}
    {target : Json} {issues : List ValidationIssue}
    (checked : routeIssue py byKey key target = .ok issues) :
    (target = .str key ∧ issues = [selfLoopIssue key]) ∨
      (target ≠ .str key ∧ issues = [] ∧
        ∃ text, target = .str text ∧ (stepOf byKey text).isSome = true) ∨
      (target ≠ .str key ∧
        issues = [keyIssue key ("Route target " ++ py.repr target ++ " does not exist")]) := by
  unfold routeIssue at checked
  split at checked
  · rename_i loop
    cases checked
    exact .inl ⟨(isStr_iff key target).mp loop, rfl⟩
  · rename_i other
    rw [isStr_iff] at other
    split at checked
    · cases checked
    · split at checked
      · rename_i found
        cases checked
        cases target with
        | str text => exact .inr (.inl ⟨other, rfl, text, rfl, found⟩)
        | null => cases found
        | bool _ => cases found
        | int _ => cases found
        | float _ => cases found
        | arr _ => cases found
        | obj _ => cases found
      · cases checked
        exact .inr (.inr ⟨other, rfl⟩)

theorem selfLoop_ne_missing (first second text : String) :
    selfLoopIssue first ≠ keyIssue second ("Route target " ++ text ++ " does not exist") := by
  intro same
  have messages := congrArg (fun issue => issue.message.toList) same
  simp [selfLoopIssue, keyIssue] at messages

section Routes

variable {py : Interpreter} {byKey : List (String × Dict)} {routeErrors : List ValidationIssue}

theorem path_of_mem_routeErrors
    (routes : checkEach (fun entry : String × Dict =>
      routeIssues py byKey entry.1 (routesOf entry.2)) byKey = .ok routeErrors)
    {issue : ValidationIssue} (member : issue ∈ routeErrors) : issue.path = none := by
  obtain ⟨entry, -, found, checked, inside⟩ := (mem_checkEach_iff routes issue).mp member
  obtain ⟨target, -, issues, each, here⟩ := (mem_checkEach_iff checked issue).mp inside
  rcases routeIssue_cases each with ⟨-, rfl⟩ | ⟨-, rfl, -⟩ | ⟨-, rfl⟩
  · rw [List.mem_singleton.mp here]
    rfl
  · cases here
  · rw [List.mem_singleton.mp here]
    rfl

/-- **A self-loop is reported of exactly the steps that route to themselves.** -/
theorem selfLoop_mem_routeErrors_iff (distinct : (byKey.map Prod.fst).Nodup)
    (routes : checkEach (fun entry : String × Dict =>
      routeIssues py byKey entry.1 (routesOf entry.2)) byKey = .ok routeErrors)
    (key : String) : selfLoopIssue key ∈ routeErrors ↔ Routes byKey key key := by
  rw [mem_checkEach_iff routes]
  constructor
  · rintro ⟨⟨name, step⟩, member, found, checked, inside⟩
    obtain ⟨target, route, issues, each, here⟩ := (mem_checkEach_iff checked _).mp inside
    rcases routeIssue_cases each with ⟨loop, rfl⟩ | ⟨-, rfl, -⟩ | ⟨-, rfl⟩
    · have same : key = name := congrArg (fun issue => issue.stepKey.getD key)
        (List.mem_singleton.mp here)
      subst same
      subst loop
      exact ⟨step, (stepOf_eq_some_iff distinct key step).mpr member, route⟩
    · cases here
    · exact absurd (List.mem_singleton.mp here) (selfLoop_ne_missing key name _)
  · rintro ⟨step, found, route⟩
    have member := (stepOf_eq_some_iff distinct key step).mp found
    obtain ⟨issues, checked⟩ := exists_of_checkEach routes (key, step) member
    refine ⟨(key, step), member, issues, checked, ?_⟩
    obtain ⟨each, here⟩ := exists_of_checkEach checked (.str key) route
    refine (mem_checkEach_iff checked _).mpr ⟨.str key, route, each, here, ?_⟩
    rcases routeIssue_cases here with ⟨-, rfl⟩ | ⟨other, -⟩ | ⟨other, -⟩
    · exact List.mem_singleton_self _
    · exact absurd rfl other
    · exact absurd rfl other

theorem exists_of_routes (distinct : (byKey.map Prod.fst).Nodup)
    (routes : checkEach (fun entry : String × Dict =>
      routeIssues py byKey entry.1 (routesOf entry.2)) byKey = .ok [])
    {source target : String} (route : Routes byKey source target) :
    target ∈ byKey.map Prod.fst := by
  obtain ⟨step, found, listed⟩ := route
  have member := (stepOf_eq_some_iff distinct source step).mp found
  obtain ⟨issues, checked⟩ := exists_of_checkEach routes (source, step) member
  obtain ⟨each, here⟩ := exists_of_checkEach checked (.str target) listed
  have none (issue : ValidationIssue) (inside : issue ∈ each) : False := by
    have among := (mem_checkEach_iff checked issue).mpr ⟨_, listed, each, here, inside⟩
    have wrong := (mem_checkEach_iff routes issue).mpr ⟨_, member, issues, checked, among⟩
    cases wrong
  rcases routeIssue_cases here with ⟨-, rfl⟩ | ⟨-, -, text, same, known⟩ | ⟨-, rfl⟩
  · exact (none _ (List.mem_singleton_self _)).elim
  · cases same
    exact (isSome_stepOf_iff target).mp known
  · exact (none _ (List.mem_singleton_self _)).elim

end Routes

/-! ## What the graph of a definition reaches -/

section Reached

variable (fields : Dict) (byKey : List (String × Dict))

/-- A key that a path of routes from the start step leads to. -/
def Reached (key : String) : Prop :=
  ∃ start, Dict.get fields "start_step" = .str start ∧
    Relation.ReflTransGen (Routes byKey) start key

/-- The start step reaches a cycle of routes. -/
def CycleReached : Prop :=
  ∃ key, Reached fields byKey key ∧ Relation.TransGen (Routes byKey) key key

/-- The start step reaches an end step. -/
def EndReached : Prop :=
  ∃ key step, Reached fields byKey key ∧ stepOf byKey key = some step ∧
    Dict.get step "type" = .str "end"

variable {fields byKey}

theorem mem_startOf_iff (root : String) : root ∈ startOf fields byKey ↔
    Dict.get fields "start_step" = .str root ∧ (stepOf byKey root).isSome = true := by
  rw [startOf, Option.mem_def, Option.filter_eq_some_iff]
  constructor
  · rintro ⟨string, known⟩
    refine ⟨?_, known⟩
    cases value : Dict.get fields "start_step" with
    | str text =>
      rw [value] at string
      rw [Option.some.inj string]
    | null => rw [value] at string; cases string
    | bool _ => rw [value] at string; cases string
    | int _ => rw [value] at string; cases string
    | float _ => rw [value] at string; cases string
    | arr _ => rw [value] at string; cases string
    | obj _ => rw [value] at string; cases string
  · rintro ⟨string, known⟩
    rw [string]
    exact ⟨rfl, known⟩

theorem isSome_of_routes {source target : String} (route : Routes byKey source target) :
    (stepOf byKey source).isSome = true := by
  obtain ⟨step, found, -⟩ := route
  rw [found]
  rfl

theorem isSome_of_path {start key : String} (path : Relation.ReflTransGen (Routes byKey) start key)
    (known : (stepOf byKey key).isSome = true) : (stepOf byKey start).isSome = true := by
  rcases Relation.ReflTransGen.cases_head path with rfl | ⟨next, route, -⟩
  · exact known
  · exact isSome_of_routes route

variable (distinct : (byKey.map Prod.fst).Nodup)
include distinct

/-- **The search finds the steps that the start step reaches.** -/
theorem mem_reachable_iff (key : String) :
    key ∈ reachableFrom (adjacencyOf byKey) (startOf fields byKey) ↔
      Reached fields byKey key ∧ key ∈ byKey.map Prod.fst := by
  rw [mem_reachableFrom_iff distinct]
  constructor
  · rintro ⟨root, start, reaches⟩
    obtain ⟨string, known⟩ := (mem_startOf_iff root).mp start
    have closed (source : String) (_ : (stepOf byKey source).isSome = true) (target : String)
        (edge : target ∈ targetsOf (adjacencyOf byKey) source) :
        (stepOf byKey target).isSome = true := ((edge_iff distinct source target).mp edge).2
    have step : (stepOf byKey key).isSome = true :=
      Reaches.mem _ (fun vertex => (stepOf byKey vertex).isSome = true) reaches closed known
    exact ⟨⟨root, string, (reaches_iff distinct step).mp reaches⟩, (isSome_stepOf_iff key).mp step⟩
  · rintro ⟨⟨start, string, path⟩, member⟩
    have step := (isSome_stepOf_iff key).mpr member
    exact ⟨start, (mem_startOf_iff start).mpr ⟨string, isSome_of_path path step⟩,
      (reaches_iff distinct step).mpr path⟩

theorem hasCycle_iff_cycleReached :
    hasCycle (adjacencyOf byKey) (startOf fields byKey) = true ↔ CycleReached fields byKey := by
  have known (root : String) (start : root ∈ startOf fields byKey) :
      (stepOf byKey root).isSome = true := ((mem_startOf_iff root).mp start).2
  rw [hasCycle_iff distinct known]
  constructor
  · rintro ⟨root, start, key, reaches, cycle⟩
    have loop := (onCycle_iff distinct).mp cycle
    obtain ⟨next, route, -⟩ := Relation.TransGen.head'_iff.mp loop
    exact ⟨key, ⟨root, ((mem_startOf_iff root).mp start).1,
      (reaches_iff distinct (isSome_of_routes route)).mp reaches⟩, loop⟩
  · rintro ⟨key, ⟨start, string, path⟩, loop⟩
    obtain ⟨next, route, -⟩ := Relation.TransGen.head'_iff.mp loop
    have step := isSome_of_routes route
    exact ⟨start, (mem_startOf_iff start).mpr ⟨string, isSome_of_path path step⟩, key,
      (reaches_iff distinct step).mpr path, (onCycle_iff distinct).mpr loop⟩

/-- The report sees an end exactly if a route leads to one. -/
theorem reachesEnd_iff_endReached :
    reachesEnd byKey (startOf fields byKey) = true ↔ EndReached fields byKey := by
  rw [reachesEnd, List.any_eq_true]
  constructor
  · rintro ⟨key, member, found⟩
    cases known : stepOf byKey key with
    | none =>
      rw [known] at found
      cases found
    | some step =>
      rw [known, Option.any_some, isStr_iff] at found
      exact ⟨key, step, ((mem_reachable_iff distinct key).mp member).1, known, found⟩
  · rintro ⟨key, step, reached, known, isEnd⟩
    have member : key ∈ byKey.map Prod.fst := by
      rw [← isSome_stepOf_iff, known]
      rfl
    refine ⟨key, (mem_reachable_iff distinct key).mpr ⟨reached, member⟩, ?_⟩
    rw [known, Option.any_some, isStr_iff]
    exact isEnd

/-- A key is reported exactly if no route from the start leads to it. -/
theorem mem_unreachableKeys_iff (key : String) :
    key ∈ unreachableKeys byKey (startOf fields byKey) ↔
      key ∈ byKey.map Prod.fst ∧ ¬ Reached fields byKey key := by
  rw [unreachableKeys, sortTexts, List.mem_insertionSort, List.mem_filter]
  have reached : key ∈ reachableFrom (adjacencyOf byKey) (startOf fields byKey) ↔
      Reached fields byKey key ∧ key ∈ byKey.map Prod.fst := mem_reachable_iff distinct key
  constructor
  · rintro ⟨member, absent⟩
    refine ⟨member, fun path => ?_⟩
    simp [reached.mpr ⟨path, member⟩] at absent
  · rintro ⟨member, unreached⟩
    refine ⟨member, ?_⟩
    have absent : key ∉ reachableFrom (adjacencyOf byKey) (startOf fields byKey) :=
      fun inside => unreached (reached.mp inside).1
    simpa using absent

end Reached

/-! ## The report of a definition -/

/-- The report names an issue exactly when a condition holds, as far as the hundred issues it
keeps reach; a definition of which the condition holds is never accepted. -/
structure Names (result : ValidationResult) (issue : ValidationIssue) (condition : Prop) :
    Prop where
  sound : issue ∈ result.errors → condition
  complete : condition → issue ∈ result.errors ∨ result.errors.length = 100
  rejects : condition → result.valid = false

namespace Report

variable {py : Interpreter} {fields : Dict} {byKey : List (String × Dict)}
  {result : ValidationResult}

/-- The issues before the report is cut. -/
def all (report : Report py fields byKey result) : List ValidationIssue :=
  report.early ++ report.routeErrors ++ graphIssues byKey (startOf fields byKey) ++ report.late

theorem names_of_mem_iff (report : Report py fields byKey result) {issue : ValidationIssue}
    {condition : Prop} (exactly : issue ∈ report.all ↔ condition) :
    Names result issue condition := by
  have errors : result.errors = report.all.take 100 := report.errors
  have valid : result.valid = report.all.isEmpty := report.valid
  refine ⟨fun member => ?_, fun holds => ?_, fun holds => ?_⟩
  · rw [errors] at member
    exact exactly.mp (List.mem_of_mem_take member)
  · rw [errors]
    by_cases short : report.all.length ≤ 100
    · rw [List.take_of_length_le short]
      exact .inl (exactly.mpr holds)
    · refine .inr ?_
      rw [List.length_take]
      omega
  · rw [valid, List.isEmpty_eq_false_iff]
    exact List.ne_nil_of_mem (exactly.mpr holds)

theorem mem_all_iff (report : Report py fields byKey result) {issue : ValidationIssue}
    (notPlain : ¬ Plain issue) : issue ∈ report.all ↔
      issue ∈ report.routeErrors ∨ issue ∈ graphIssues byKey (startOf fields byKey) := by
  have early : issue ∉ report.early := fun member => notPlain (report.early_plain issue member)
  have late : issue ∉ report.late := fun member => notPlain (report.late_plain issue member)
  simp [all, early, late]

theorem not_mem_routeErrors (report : Report py fields byKey result) {issue : ValidationIssue}
    {path : String} (named : issue.path = some path) : issue ∉ report.routeErrors := by
  intro member
  rw [path_of_mem_routeErrors report.routes member] at named
  cases named

variable (distinct : (byKey.map Prod.fst).Nodup)
include distinct

theorem names_cycle (report : Report py fields byKey result) :
    Names result cycleIssue (CycleReached fields byKey) := by
  apply report.names_of_mem_iff
  rw [report.mem_all_iff fun plain => plain.cycle rfl, ← hasCycle_iff_cycleReached distinct]
  have route : cycleIssue ∉ report.routeErrors := report.not_mem_routeErrors rfl
  have apart : cycleIssue ≠ endIssue := by decide
  have unreachable (key : String) : keyIssue key "Step is unreachable" ≠ cycleIssue :=
    fun same => by cases congrArg ValidationIssue.path same
  cases cycle : hasCycle (adjacencyOf byKey) (startOf fields byKey) with
  | true => simp [graphIssues, cycle]
  | false =>
    simp only [graphIssues, route, cycle, unreachable, Bool.false_eq_true, if_false,
      List.append_nil, List.mem_append, List.mem_map, and_false, exists_const, false_or, iff_false]
    split <;> simp [apart]

theorem names_end (report : Report py fields byKey result) :
    Names result endIssue (¬ EndReached fields byKey) := by
  apply report.names_of_mem_iff
  rw [report.mem_all_iff fun plain => plain.missingEnd rfl, ← reachesEnd_iff_endReached distinct]
  have route : endIssue ∉ report.routeErrors := report.not_mem_routeErrors rfl
  have apart : endIssue ≠ cycleIssue := by decide
  have unreachable (key : String) : keyIssue key "Step is unreachable" ≠ endIssue :=
    fun same => by cases congrArg ValidationIssue.path same
  cases reached : reachesEnd byKey (startOf fields byKey) with
  | true =>
    simp only [graphIssues, route, reached, unreachable, List.mem_append, List.mem_map, and_false,
      exists_const, false_or, if_true, List.not_mem_nil, or_false, not_true_eq_false, iff_false]
    split <;> simp [apart]
  | false => simp [graphIssues, reached]

theorem names_selfLoop (report : Report py fields byKey result) (key : String) :
    Names result (selfLoopIssue key) (Routes byKey key key) := by
  apply report.names_of_mem_iff
  rw [report.mem_all_iff fun plain => plain.selfLoop key rfl,
    ← selfLoop_mem_routeErrors_iff distinct report.routes]
  have graph : selfLoopIssue key ∉ graphIssues byKey (startOf fields byKey) := by
    intro member
    rcases List.mem_append.mp member with first | last
    · rcases List.mem_append.mp first with unreachable | cycle
      · obtain ⟨other, -, same⟩ := List.mem_map.mp unreachable
        have messages : "Step is unreachable" = "Self-loop is prohibited" :=
          congrArg ValidationIssue.message same
        revert messages
        decide
      · split at cycle
        · have wrong := congrArg ValidationIssue.path (List.mem_singleton.mp cycle)
          cases wrong
        · cases cycle
    · split at last
      · cases last
      · have wrong := congrArg ValidationIssue.path (List.mem_singleton.mp last)
        cases wrong
  simp [graph]

/-- **The walks of an accepted definition stay within its steps and visit each at most
once.** -/
theorem walk_of_valid (report : Report py fields byKey result) (accepted : result.valid = true)
    {start : String} {rest : List String} (string : Dict.get fields "start_step" = .str start)
    (walk : (start :: rest).IsChain (Routes byKey)) :
    (start :: rest).Nodup ∧ ∀ key ∈ start :: rest, key ∈ byKey.map Prod.fst := by
  have empty : report.all = [] := by
    have valid : result.valid = report.all.isEmpty := report.valid
    rw [valid, List.isEmpty_iff] at accepted
    exact accepted
  have noCycle : ¬ CycleReached fields byKey := by
    intro cycle
    have rejected := (report.names_cycle distinct).rejects cycle
    rw [accepted] at rejected
    cases rejected
  simp only [all, List.append_eq_nil_iff] at empty
  obtain ⟨⟨⟨early, routeErrors⟩, -⟩, -⟩ := empty
  have routes := report.routes
  rw [routeErrors] at routes
  constructor
  · apply nodup_of_walk walk
    intro key path loop
    exact noCycle ⟨key, ⟨start, string, path⟩, loop⟩
  · intro key member
    have path := reaches_of_mem_walk walk key member
    rcases Relation.ReflTransGen.cases_tail path with rfl | ⟨source, -, route⟩
    · cases known : startOf fields byKey with
      | none => exact absurd known (report.start early)
      | some root =>
        obtain ⟨named, exists_⟩ := (mem_startOf_iff root).mp known
        rw [string] at named
        cases named
        exact (isSome_stepOf_iff _).mp exists_
    · exact exists_of_routes distinct routes route

end Report

/-- What a report says about the graph of keyed steps. -/
structure ReportsGraph (fields : Dict) (byKey : List (String × Dict)) (result : ValidationResult) :
    Prop where
  cycle : Names result cycleIssue (CycleReached fields byKey)
  selfLoop : ∀ key, Names result (selfLoopIssue key) (Routes byKey key key)
  unreachable : ∀ key, key ∈ result.unreachableSteps ↔
    key ∈ byKey.map Prod.fst ∧ ¬ Reached fields byKey key
  missingEnd : Names result endIssue (¬ EndReached fields byKey)
  walks : result.valid = true → ∀ start rest, Dict.get fields "start_step" = .str start →
    (start :: rest).IsChain (Routes byKey) →
      (start :: rest).Nodup ∧ (∀ key ∈ start :: rest, key ∈ byKey.map Prod.fst) ∧
        (start :: rest).length ≤ byKey.length

/-- **The report of a definition with keyed steps is right about its graph.** -/
theorem validateDefinition_reportsGraph (py : Interpreter) {fields : Dict}
    {triggerMode : TriggerMode} {policies : PolicyMaps} {steps : List Json}
    {byKey : List (String × Dict)} {result : ValidationResult}
    (listed : Dict.get fields "steps" = .arr steps)
    (size : 1 ≤ steps.length ∧ steps.length ≤ 50) (keyed : KeyedSteps steps byKey)
    (validated : validateDefinition py (.obj fields) triggerMode policies = .ok result) :
    ReportsGraph fields byKey result := by
  obtain ⟨report⟩ := exists_report listed size keyed validated
  have distinct := keyed.distinct
  refine ⟨report.names_cycle distinct, report.names_selfLoop distinct, fun key => ?_,
    report.names_end distinct, fun accepted start rest string walk => ?_⟩
  · rw [report.unreachable]
    exact mem_unreachableKeys_iff distinct key
  · obtain ⟨once, inside⟩ := report.walk_of_valid distinct accepted string walk
    refine ⟨once, inside, ?_⟩
    have fewer := (List.subperm_of_subset once inside).length_le
    rwa [List.length_map] at fewer

/-! ## A stranded self-loop -/

/-- A definition that starts at its end, with another step that routes to itself. -/
def strandedSteps : List (String × Dict) :=
  [("a", [("key", .str "a"), ("type", .str "end"), ("position", .int 0)]),
    ("b", [("key", .str "b"), ("type", .str "approval"), ("on_success", .str "b"),
      ("position", .int 1)])]

def strandedLoop : Dict :=
  [("start_step", .str "a"), ("steps", .arr (strandedSteps.map fun entry => .obj entry.2))]

/-- A runtime without tables. -/
def bareRuntime : Interpreter where
  foldTable c := [c]
  parseInt _ := none
  repr _ := "object"
  floatText _ := "0.0"

/-- No action has a policy. -/
def noPolicies : PolicyMaps := ⟨fun _ => none, fun _ => false⟩

theorem strandedSteps_keyed :
    KeyedSteps (strandedSteps.map fun entry => .obj entry.2) strandedSteps where
  objects := rfl
  keys := by
    intro entry member
    simp only [strandedSteps, List.mem_cons, List.not_mem_nil, or_false] at member
    rcases member with rfl | rfl
    · exact ⟨rfl, by decide⟩
    · exact ⟨rfl, by decide⟩
  distinct := by simp [strandedSteps]

theorem exists_strandedReport : ∃ result,
    validateDefinition bareRuntime (.obj strandedLoop) .manual noPolicies = .ok result ∧
      selfLoopIssue "b" ∈ result.errors := by
  have run : (validateDefinition bareRuntime (.obj strandedLoop) .manual noPolicies).toOption.any
      (fun result => decide (selfLoopIssue "b" ∈ result.errors)) = true := by
    decide +kernel
  cases validated : validateDefinition bareRuntime (.obj strandedLoop) .manual noPolicies with
  | error message =>
    rw [validated] at run
    cases run
  | ok result =>
    rw [validated] at run
    exact ⟨result, rfl, of_decide_eq_true run⟩

/-- The report of the definition is right about its graph: it names `b` as unreachable and as
a self-loop. -/
theorem validateDefinition_reportsGraph_stranded : ∃ result,
    validateDefinition bareRuntime (.obj strandedLoop) .manual noPolicies = .ok result ∧
      ReportsGraph strandedLoop strandedSteps result := by
  obtain ⟨result, validated, -⟩ := exists_strandedReport
  exact ⟨result, validated, validateDefinition_reportsGraph bareRuntime rfl (by decide)
    strandedSteps_keyed validated⟩

/-! ## A report that is full before the cycle -/

/-- A step that routes to the given one and twice to none. -/
def crowdedStep (index : Nat) (success : String) : String × Dict :=
  let key := "s" ++ toString index
  (key, [("key", .str key), ("type", .str "approval"), ("on_success", .str success),
    ("on_failure", .str "x"), ("on_timeout", .str "x"), ("position", .int index)])

/-- Two steps that route to each other, and thirty-four whose targets do not exist. -/
def crowdedSteps : List (String × Dict) :=
  crowdedStep 0 "s1" :: crowdedStep 1 "s0" ::
    (List.range 34).map fun index => crowdedStep (index + 2) "x"

/-- The fields of the definition, which starts in the cycle. -/
def crowdedLoop : Dict :=
  [("start_step", .str "s0"), ("steps", .arr (crowdedSteps.map fun entry => .obj entry.2))]

theorem crowdedSteps_keyed :
    KeyedSteps (crowdedSteps.map fun entry => .obj entry.2) crowdedSteps where
  objects := rfl
  keys := by
    have stable : ∀ entry ∈ crowdedSteps, matchesStepKey entry.1 = true := by decide +kernel
    intro entry member
    refine ⟨?_, stable entry member⟩
    rcases List.mem_cons.mp member with rfl | member
    · rfl
    rcases List.mem_cons.mp member with rfl | member
    · rfl
    obtain ⟨index, -, rfl⟩ := List.mem_map.mp member
    rfl
  distinct := by decide +kernel

theorem exists_crowdedReport : ∃ result,
    validateDefinition bareRuntime (.obj crowdedLoop) .manual noPolicies = .ok result ∧
      cycleIssue ∉ result.errors ∧
        ∀ issue ∈ result.errors, issue.message ≠ "Self-loop is prohibited" := by
  have run : (validateDefinition bareRuntime (.obj crowdedLoop) .manual noPolicies).toOption.any
      (fun result => decide (cycleIssue ∉ result.errors ∧
        ∀ issue ∈ result.errors, issue.message ≠ "Self-loop is prohibited")) = true := by
    decide +kernel
  cases validated : validateDefinition bareRuntime (.obj crowdedLoop) .manual noPolicies with
  | error message =>
    rw [validated] at run
    cases run
  | ok result =>
    rw [validated] at run
    exact ⟨result, rfl, of_decide_eq_true run⟩

/-- **A cycle is not reported exactly when the start step reaches one**: a self-loop is
reported of every step, and a report of a hundred issues has no room for the cycle. -/
theorem not_cycle_reported_iff :
    (¬ ∀ (py : Interpreter) (fields : Dict) (triggerMode : TriggerMode)
      (policies : PolicyMaps) (steps : List Json) (byKey : List (String × Dict))
      (result : ValidationResult), Dict.get fields "steps" = .arr steps →
      1 ≤ steps.length ∧ steps.length ≤ 50 → KeyedSteps steps byKey →
      validateDefinition py (.obj fields) triggerMode policies = .ok result →
      (cycleIssue ∈ result.errors ∨ ∃ key, selfLoopIssue key ∈ result.errors) →
        CycleReached fields byKey) ∧
    ¬ ∀ (py : Interpreter) (fields : Dict) (triggerMode : TriggerMode)
      (policies : PolicyMaps) (steps : List Json) (byKey : List (String × Dict))
      (result : ValidationResult), Dict.get fields "steps" = .arr steps →
      1 ≤ steps.length ∧ steps.length ≤ 50 → KeyedSteps steps byKey →
      validateDefinition py (.obj fields) triggerMode policies = .ok result →
      CycleReached fields byKey →
        cycleIssue ∈ result.errors ∨ ∃ key, selfLoopIssue key ∈ result.errors := by
  constructor
  · intro claimed
    obtain ⟨result, validated, reported⟩ := exists_strandedReport
    have cycle := claimed bareRuntime strandedLoop .manual noPolicies _ strandedSteps result rfl
      (by decide) strandedSteps_keyed validated (.inr ⟨"b", reported⟩)
    rw [← hasCycle_iff_cycleReached strandedSteps_keyed.distinct] at cycle
    revert cycle
    decide +kernel
  · intro claimed
    obtain ⟨result, validated, noCycle, noLoop⟩ := exists_crowdedReport
    have cycle : CycleReached crowdedLoop crowdedSteps := by
      rw [← hasCycle_iff_cycleReached crowdedSteps_keyed.distinct]
      decide +kernel
    rcases claimed bareRuntime crowdedLoop .manual noPolicies _ crowdedSteps result rfl (by decide)
      crowdedSteps_keyed validated cycle with reported | ⟨key, reported⟩
    · exact noCycle reported
    · exact noLoop _ reported rfl

end ThreatScope.Soar
