import ThreatScope.Soar.Validation

/-!
# Conditions, validated and evaluated

`_condition_errors` and `evaluate` walk a condition in the same order, and each stops or goes on
because of what it meets. The walk itself (`visits`) depends on the condition alone. Evaluation is
a scan of it that stops at the first fault or when the budget of comparisons is spent
(`outcome_evaluateWithin`); validation goes on after a fault, and counts
(`conditionErrors_of_hashable`). They agree except where validation meets an operator that is a
list or a dictionary and raises, although evaluation has stopped before it
(`validator_agrees_iff`).
-/

set_option autoImplicit false

namespace ThreatScope.Soar

open Library

/-! ## The walk of a condition -/

/-- What a walk of a condition meets. -/
inductive Encounter where
  | tooDeep
  /-- A value that is no condition, or a number of conditions that is out of bounds. -/
  | malformed
  /-- An operator that is a list or a dictionary. -/
  | unhashable
  | connective
  /-- A comparison, and whether its references are allowed. -/
  | comparison (allowed : Bool)
deriving DecidableEq

/-- The references of a comparison are allowed. -/
def sidesAllowed (fields : Dict) : Bool :=
  ["left", "right"].all fun side => (Dict.find? fields side).all validateReference

/-- The walk of a condition, with the levels that remain. -/
def visits : Nat → Json → List Encounter
  | 0, _ => [.tooDeep]
  | levels + 1, condition =>
    match conditionOperator condition with
    | .error _ => [.unhashable]
    | .ok none => [.malformed]
    | .ok (some (fields, _, operator)) =>
      if operator = .all ∨ operator = .any then
        match Dict.get fields "conditions" with
        | .arr items =>
          if 1 ≤ items.length ∧ items.length ≤ 20 then
            .connective :: items.flatMap (visits levels)
          else [.malformed]
        | _ => [.malformed]
      else if operator = .not then .connective :: visits levels (Dict.get fields "condition")
      else [.comparison (sidesAllowed fields)]

/-- It is a comparison. -/
def Encounter.isComparison : Encounter → Bool
  | .comparison _ => true
  | _ => false

/-- Evaluation goes on after it. -/
def Encounter.isPassable : Encounter → Bool
  | .connective | .comparison _ => true
  | _ => false

/-- Validation has nothing to say about it, the count apart. -/
def Encounter.isSound : Encounter → Bool
  | .connective | .comparison true => true
  | _ => false

/-- How many comparisons a walk meets. -/
def comparisonsIn (walk : List Encounter) : Nat := walk.countP Encounter.isComparison

@[simp] theorem comparisonsIn_append (first second : List Encounter) :
    comparisonsIn (first ++ second) = comparisonsIn first + comparisonsIn second :=
  List.countP_append ..

/-! ## Evaluation -/

/-- The exception that `evaluate` raises. -/
inductive EvaluationFault where
  | valueError
  | typeError
deriving DecidableEq

/-- The class of an exception, by its message. -/
def faultOf (message : String) : EvaluationFault :=
  if message = "unhashable type: 'list'" ∨ message = "unhashable type: 'dict'" then .typeError
  else .valueError

/-- A walk on a budget of comparisons: what is left of it, or the exception. -/
def scan : List Encounter → Nat → Except EvaluationFault Nat
  | [], budget => .ok budget
  | .tooDeep :: _, _ => .error .valueError
  | _ :: _, 0 => .error .valueError
  | .malformed :: _, _ + 1 => .error .valueError
  | .unhashable :: _, _ + 1 => .error .typeError
  | .connective :: rest, budget + 1 => scan rest (budget + 1)
  | .comparison _ :: rest, budget + 1 => scan rest budget

theorem scan_append (first second : List Encounter) (budget : Nat) :
    scan (first ++ second) budget = scan first budget >>= scan second := by
  induction first generalizing budget with
  | nil => rfl
  | cons encounter rest ih =>
    cases encounter with
    | tooDeep => rfl
    | malformed => cases budget <;> rfl
    | unhashable => cases budget <;> rfl
    | connective =>
      cases budget with
      | zero => rfl
      | succ budget => exact ih (budget + 1)
    | comparison allowed =>
      cases budget with
      | zero => rfl
      | succ budget => exact ih budget

/-- What evaluation leaves of its budget, or the class of its exception. -/
def outcome {α : Type} (result : Except String (α × Nat)) : Except EvaluationFault Nat :=
  match result with
  | .error message => .error (faultOf message)
  | .ok (_, budget) => .ok budget

theorem ofText?_connective {text : String} {operator : Operator}
    (named : Operator.ofText? text = some operator)
    (connective : operator = .all ∨ operator = .any) :
    text = "all" ∨ text = "any" := by
  unfold Operator.ofText? at named
  split at named <;> cases named <;> simp at connective ⊢

theorem conditionOperator_some {condition : Json} {fields : Dict} {text : String}
    {operator : Operator}
    (found : conditionOperator condition = .ok (some (fields, text, operator))) :
    Operator.ofText? text = some operator := by
  unfold conditionOperator at found
  split at found
  · split at found
    · rename_i inner named
      cases given : Operator.ofText? inner with
      | none => rw [given] at found; cases found
      | some known => rw [given] at found; cases found; exact given
    all_goals cases found
  · cases found

theorem conditionOperator_error {condition : Json} {message : String}
    (raised : conditionOperator condition = .error message) : faultOf message = .typeError := by
  unfold conditionOperator at raised
  split at raised
  · split at raised <;> cases raised
    · exact if_pos (.inl rfl)
    · exact if_pos (.inr rfl)
  · cases raised

theorem faultOf_arity {text : String} (named : text = "all" ∨ text = "any") :
    faultOf (text ++ " requires 1 to 20 conditions") = .valueError := by
  rcases named with rfl | rfl <;> decide

section Evaluation

variable (py : Interpreter) (context : Dict)

theorem outcome_evaluateEach {one : Json → Nat → Except String (ConditionResult × Nat)}
    {walk : Json → List Encounter}
    (each : ∀ item budget, outcome (one item budget) = scan (walk item) budget)
    (items : List Json) (budget : Nat) :
    outcome (evaluateEach one items budget) = scan (items.flatMap walk) budget := by
  induction items generalizing budget with
  | nil => rfl
  | cons item rest ih =>
    rw [List.flatMap_cons, scan_append, ← each, evaluateEach]
    cases one item budget with
    | error message => rfl
    | ok first =>
      obtain ⟨result, left⟩ := first
      have later := ih left
      dsimp only
      show _ = scan (rest.flatMap walk) left
      rw [← later]
      cases evaluateEach one rest left with
      | error message => rfl
      | ok second => rfl

theorem visits_ne_nil (levels : Nat) (condition : Json) : visits levels condition ≠ [] := by
  cases levels with
  | zero => simp [visits]
  | succ levels =>
    rw [visits]
    split
    · simp
    · simp
    · split_ifs
      · split
        · split_ifs <;> simp
        · simp
      · simp
      · simp

theorem scan_zero {walk : List Encounter} (some_ : walk ≠ []) :
    scan walk 0 = .error .valueError := by
  cases walk with
  | nil => exact absurd rfl some_
  | cons encounter rest => cases encounter <;> rfl

/-- **Evaluation is a scan of the walk.** -/
theorem outcome_evaluateWithin (levels : Nat) (condition : Json) (budget : Nat) :
    outcome (evaluateWithin py context levels condition budget) =
      scan (visits levels condition) budget := by
  induction levels generalizing condition budget with
  | zero => simp [evaluateWithin, visits, scan, outcome, faultOf]
  | succ levels ih =>
    cases budget with
    | zero =>
      rw [scan_zero (visits_ne_nil _ condition), evaluateWithin]
      simp [outcome, faultOf]
    | succ budget =>
      rw [evaluateWithin, visits, if_neg (Nat.succ_ne_zero budget)]
      cases found : conditionOperator condition with
      | error message =>
        show Except.error (faultOf message) = _
        rw [conditionOperator_error found]
        rfl
      | ok known =>
        cases known with
        | none => rfl
        | some known =>
          obtain ⟨fields, text, operator⟩ := known
          dsimp only
          by_cases connective : operator = .all ∨ operator = .any
          · have arity := faultOf_arity
              (ofText?_connective (conditionOperator_some found) connective)
            rw [if_pos connective, if_pos connective]
            cases Dict.get fields "conditions" with
            | arr items =>
              dsimp only
              by_cases bounded : 1 ≤ items.length ∧ items.length ≤ 20
              · rw [if_pos bounded, if_pos bounded]
                have each := outcome_evaluateEach (ih · ·) items (budget + 1)
                show _ = scan (items.flatMap (visits levels)) (budget + 1)
                rw [← each]
                cases evaluateEach (evaluateWithin py context levels) items
                  (budget + 1) with
                | error message => rfl
                | ok results => rfl
              · rw [if_neg bounded, if_neg bounded]
                exact congrArg Except.error arity
            | _ => exact congrArg Except.error arity
          · rw [if_neg connective, if_neg connective]
            by_cases negation : operator = .not
            · rw [if_pos negation, if_pos negation]
              show _ = scan (visits levels (Dict.get fields "condition")) (budget + 1)
              rw [← ih]
              cases evaluateWithin py context levels (Dict.get fields "condition")
                (budget + 1) with
              | error message => rfl
              | ok result => rfl
            · rw [if_neg negation, if_neg negation]
              rfl

theorem comparisons_evaluateEach {one : Json → Nat → Except String (ConditionResult × Nat)}
    (each : ∀ item budget result left, one item budget = .ok (result, left) →
      result.comparisons + left = budget) {items : List Json} {budget left : Nat}
    {results : List ConditionResult}
    (evaluated : evaluateEach one items budget = .ok (results, left)) :
    (results.map ConditionResult.comparisons).sum + left = budget := by
  induction items generalizing budget left results with
  | nil =>
    cases evaluated
    simp
  | cons item rest ih =>
    rw [evaluateEach] at evaluated
    cases first : one item budget with
    | error message => rw [first] at evaluated; cases evaluated
    | ok pair =>
      obtain ⟨result, middle⟩ := pair
      rw [first] at evaluated
      dsimp only at evaluated
      cases second : evaluateEach one rest middle with
      | error message => rw [second] at evaluated; cases evaluated
      | ok pair =>
        obtain ⟨others, last⟩ := pair
        rw [second] at evaluated
        cases evaluated
        have here := each item budget result middle first
        have later := ih second
        rw [List.map_cons, List.sum_cons]
        omega

/-- **The comparisons that a result reports are those that were taken from the budget.** -/
theorem comparisons_evaluateWithin {levels : Nat} {condition : Json} {budget left : Nat}
    {result : ConditionResult}
    (evaluated : evaluateWithin py context levels condition budget = .ok (result, left)) :
    result.comparisons + left = budget := by
  induction levels generalizing condition budget left result with
  | zero => cases evaluated
  | succ levels ih =>
    rw [evaluateWithin] at evaluated
    split_ifs at evaluated with spent
    cases found : conditionOperator condition with
    | error message => rw [found] at evaluated; cases evaluated
    | ok known =>
      rw [found] at evaluated
      cases known with
      | none => cases evaluated
      | some known =>
        obtain ⟨fields, text, operator⟩ := known
        dsimp only at evaluated
        by_cases connective : operator = .all ∨ operator = .any
        · rw [if_pos connective] at evaluated
          cases given : Dict.get fields "conditions" with
          | arr items =>
            rw [given] at evaluated
            dsimp only at evaluated
            by_cases bounded : 1 ≤ items.length ∧ items.length ≤ 20
            · rw [if_pos bounded] at evaluated
              cases each : evaluateEach (evaluateWithin py context levels) items
                  budget with
              | error message => rw [each] at evaluated; cases evaluated
              | ok pair =>
                obtain ⟨results, last⟩ := pair
                rw [each] at evaluated
                cases evaluated
                exact comparisons_evaluateEach (fun _ _ _ _ => ih) each
            · rw [if_neg bounded] at evaluated
              cases evaluated
          | _ => rw [given] at evaluated; cases evaluated
        · rw [if_neg connective] at evaluated
          by_cases negation : operator = .not
          · rw [if_pos negation] at evaluated
            cases inner : evaluateWithin py context levels (Dict.get fields "condition")
                budget with
            | error message => rw [inner] at evaluated; cases evaluated
            | ok pair =>
              obtain ⟨below, last⟩ := pair
              rw [inner] at evaluated
              cases evaluated
              have taken := ih inner
              exact taken
          · rw [if_neg negation] at evaluated
            cases evaluated
            show 1 + (budget - 1) = budget
            omega

end Evaluation

/-! ## What a scan says about the walk -/

section Scan

variable {walk : List Encounter} {budget : Nat}

theorem isPassable_of_scan {left : Nat} (scanned : scan walk budget = .ok left) :
    ∀ encounter ∈ walk, encounter.isPassable = true := by
  induction walk generalizing budget with
  | nil => exact fun _ member => absurd member List.not_mem_nil
  | cons encounter rest ih =>
    cases budget with
    | zero => rw [scan_zero (List.cons_ne_nil _ _)] at scanned; cases scanned
    | succ budget =>
      cases encounter with
      | tooDeep => cases scanned
      | malformed => cases scanned
      | unhashable => cases scanned
      | connective => exact List.forall_mem_cons.mpr ⟨rfl, ih scanned⟩
      | comparison allowed => exact List.forall_mem_cons.mpr ⟨rfl, ih scanned⟩

/-- The first fault of the walk is an operator that cannot be looked up, and the budget reaches
it. -/
def UnhashableFirst (walk : List Encounter) (budget : Nat) : Prop :=
  ∃ before after, walk = before ++ .unhashable :: after ∧
    (∀ encounter ∈ before, encounter.isPassable = true) ∧ comparisonsIn before < budget

theorem scan_typeError_iff :
    scan walk budget = .error .typeError ↔ UnhashableFirst walk budget := by
  induction walk generalizing budget with
  | nil =>
    refine iff_of_false nofun ?_
    rintro ⟨before, after, split, -⟩
    simp at split
  | cons encounter rest ih =>
    cases budget with
    | zero =>
      rw [scan_zero (List.cons_ne_nil _ _)]
      refine iff_of_false nofun ?_
      rintro ⟨before, after, -, -, few⟩
      exact absurd few (Nat.not_lt_zero _)
    | succ budget =>
      have later : ∀ cost, encounter.isPassable = true → cost = comparisonsIn [encounter] →
          cost ≤ budget + 1 → (UnhashableFirst (encounter :: rest) (budget + 1) ↔
            UnhashableFirst rest (budget + 1 - cost)) := by
        intro cost passable price affordable
        constructor
        · rintro ⟨before, after, split, sound, few⟩
          cases before with
          | nil =>
            obtain ⟨rfl, -⟩ := List.cons.inj split
            cases passable
          | cons first before =>
            obtain ⟨rfl, tail⟩ := List.cons.inj split
            have total := comparisonsIn_append [encounter] before
            rw [List.singleton_append, ← price] at total
            exact ⟨before, after, tail, (List.forall_mem_cons.mp sound).2, by omega⟩
        · rintro ⟨before, after, tail, sound, few⟩
          have total := comparisonsIn_append [encounter] before
          rw [List.singleton_append, ← price] at total
          exact ⟨encounter :: before, after, by rw [tail, List.cons_append],
            List.forall_mem_cons.mpr ⟨passable, sound⟩, by omega⟩
      have fails : encounter.isPassable = false → encounter ≠ .unhashable →
          ¬UnhashableFirst (encounter :: rest) (budget + 1) := by
        rintro impassable other ⟨before, after, split, sound, -⟩
        cases before with
        | nil => exact other (List.cons.inj split).1
        | cons first before =>
          obtain ⟨rfl, -⟩ := List.cons.inj split
          rw [(List.forall_mem_cons.mp sound).1] at impassable
          cases impassable
      cases encounter with
      | tooDeep => exact iff_of_false nofun (fails rfl nofun)
      | malformed => exact iff_of_false nofun (fails rfl nofun)
      | unhashable =>
        exact iff_of_true rfl ⟨[], rest, rfl, fun _ member => absurd member List.not_mem_nil,
          Nat.succ_pos budget⟩
      | connective => exact ih.trans (later 0 rfl rfl (Nat.zero_le _)).symm
      | comparison allowed => exact ih.trans (later 1 rfl rfl (Nat.le_add_left _ _)).symm

/-- A walk that passes, ends in a comparison and fits into the budget is scanned to its end. -/
theorem scan_of_last {init : List Encounter} {allowed : Bool}
    (passable : ∀ encounter ∈ init, encounter.isPassable = true)
    (fits : comparisonsIn init < budget) :
    scan (init ++ [.comparison allowed]) budget = .ok (budget - comparisonsIn init - 1) := by
  induction init generalizing budget with
  | nil =>
    cases budget with
    | zero => cases fits
    | succ budget => rfl
  | cons encounter rest ih =>
    obtain ⟨here, later⟩ := List.forall_mem_cons.mp passable
    have total := comparisonsIn_append [encounter] rest
    rw [List.singleton_append] at total
    cases budget with
    | zero => cases fits
    | succ budget =>
      cases encounter with
      | tooDeep => cases here
      | malformed => cases here
      | unhashable => cases here
      | connective =>
        have none : comparisonsIn [Encounter.connective] = 0 := rfl
        rw [none, Nat.zero_add] at total
        rw [total] at fits ⊢
        exact ih later fits
      | comparison other =>
        have one : comparisonsIn [Encounter.comparison other] = 1 := rfl
        rw [one] at total
        rw [total] at fits ⊢
        have scanned := @ih budget later (by omega)
        rw [List.cons_append, scan, scanned]
        congr 1
        omega

end Scan

theorem exists_last_comparison {levels : Nat} {condition : Json}
    (passable : ∀ encounter ∈ visits levels condition, encounter.isPassable = true) :
    ∃ init allowed, visits levels condition = init ++ [.comparison allowed] := by
  induction levels generalizing condition with
  | zero => cases passable .tooDeep (List.mem_singleton_self _)
  | succ levels ih =>
    rw [visits] at passable ⊢
    cases found : conditionOperator condition with
    | error message =>
      rw [found] at passable
      cases passable .unhashable (List.mem_singleton_self _)
    | ok known =>
      rw [found] at passable
      cases known with
      | none => cases passable .malformed (List.mem_singleton_self _)
      | some known =>
        obtain ⟨fields, text, operator⟩ := known
        dsimp only at passable ⊢
        by_cases connective : operator = .all ∨ operator = .any
        · rw [if_pos connective] at passable ⊢
          cases given : Dict.get fields "conditions" with
          | arr items =>
            rw [given] at passable
            dsimp only at passable ⊢
            by_cases bounded : 1 ≤ items.length ∧ items.length ≤ 20
            · rw [if_pos bounded] at passable ⊢
              have some_ : items ≠ [] := List.ne_nil_of_length_pos bounded.1
              have parts := List.dropLast_append_getLast some_
              have last := @ih (items.getLast some_) fun encounter member =>
                passable encounter (List.mem_cons_of_mem _
                  (List.mem_flatMap.mpr ⟨_, List.getLast_mem some_, member⟩))
              obtain ⟨init, allowed, ends⟩ := last
              refine ⟨.connective :: items.dropLast.flatMap (visits levels) ++ init, allowed,
                ?_⟩
              rw [← parts, List.flatMap_append, List.flatMap_singleton, parts, ends]
              simp
            · rw [if_neg bounded] at passable
              cases passable .malformed (List.mem_singleton_self _)
          | _ =>
            rw [given] at passable
            cases passable .malformed (List.mem_singleton_self _)
        · rw [if_neg connective] at passable ⊢
          by_cases negation : operator = .not
          · rw [if_pos negation] at passable ⊢
            obtain ⟨init, allowed, ends⟩ := ih (List.forall_mem_cons.mp passable).2
            exact ⟨.connective :: init, allowed, by rw [ends, List.cons_append]⟩
          · rw [if_neg negation]
            exact ⟨[], sidesAllowed fields, rfl⟩

/-! ## Validation -/

/-- What a walk makes of the validation that starts with a count of comparisons: it raises on an
operator that cannot be looked up, and otherwise counts every comparison, and reports nothing
exactly when every encounter is sound and the count stays within its bound. -/
def Answers (walk : List Encounter) (count : Nat)
    (result : Except String (List ValidationIssue × Nat)) : Prop :=
  match result with
  | .error _ => .unhashable ∈ walk
  | .ok (errors, after) =>
    .unhashable ∉ walk ∧ after = count + comparisonsIn walk ∧
      (errors = [] ↔ (∀ encounter ∈ walk, encounter.isSound = true) ∧
        (comparisonsIn walk = 0 ∨ count + comparisonsIn walk ≤ maxComparisons))

theorem answers_fault {encounter : Encounter} (unsound : encounter.isSound = false)
    (hashable : encounter ≠ .unhashable) (uncounted : encounter.isComparison = false)
    (issue : ValidationIssue) (count : Nat) : Answers [encounter] count (.ok ([issue], count)) := by
  have none : comparisonsIn [encounter] = 0 := by simp [comparisonsIn, uncounted]
  refine ⟨fun member => hashable (List.mem_singleton.mp member).symm, by rw [none, Nat.add_zero],
    iff_of_false (List.cons_ne_nil _ _) ?_⟩
  rintro ⟨sound, -⟩
  rw [sound encounter (List.mem_singleton_self _)] at unsound
  cases unsound

theorem answers_connective {walk : List Encounter} {count : Nat}
    {result : Except String (List ValidationIssue × Nat)} (answers : Answers walk count result) :
    Answers (.connective :: walk) count result := by
  have total := comparisonsIn_append [.connective] walk
  have none : comparisonsIn [Encounter.connective] = 0 := rfl
  rw [List.singleton_append, none, Nat.zero_add] at total
  cases result with
  | error message => exact List.mem_cons_of_mem _ answers
  | ok pair =>
    obtain ⟨hashable, counted, empty⟩ := answers
    refine ⟨fun member => ?_, by rw [total]; exact counted, ?_⟩
    · rcases List.mem_cons.mp member with wrong | later
      · cases wrong
      · exact hashable later
    · rw [total, List.forall_mem_cons]
      refine empty.trans ⟨fun known => ⟨⟨rfl, known.1⟩, known.2⟩, fun known =>
        ⟨known.1.2, known.2⟩⟩

theorem answers_each {one : String → Json → Nat → Except String (List ValidationIssue × Nat)}
    {walk : Json → List Encounter}
    (each : ∀ path item count, Answers (walk item) count (one path item count))
    (path : String) (items : List (Json × Nat)) (count : Nat) :
    Answers (items.flatMap fun item => walk item.1) count
      (conditionErrorsEach one path items count) := by
  induction items generalizing count with
  | nil => exact ⟨List.not_mem_nil, rfl, iff_of_true rfl ⟨fun _ member =>
    absurd member List.not_mem_nil, .inl rfl⟩⟩
  | cons item rest ih =>
    obtain ⟨child, index⟩ := item
    have here := each (path ++ ".conditions[" ++ toString index ++ "]") child count
    rw [conditionErrorsEach, List.flatMap_cons]
    cases first : one (path ++ ".conditions[" ++ toString index ++ "]") child count with
    | error message =>
      rw [first] at here
      exact List.mem_append_left _ here
    | ok pair =>
      obtain ⟨errors, middle⟩ := pair
      rw [first] at here
      obtain ⟨hashable, rfl, empty⟩ := here
      have later := ih (count + comparisonsIn (walk child))
      dsimp only
      cases second : conditionErrorsEach one path rest (count + comparisonsIn (walk child)) with
      | error message =>
        rw [second] at later
        exact List.mem_append_right _ later
      | ok pair =>
        obtain ⟨others, after⟩ := pair
        rw [second] at later
        obtain ⟨alsoHashable, rfl, alsoEmpty⟩ := later
        refine ⟨fun member => (List.mem_append.mp member).elim hashable alsoHashable, ?_, ?_⟩
        · rw [comparisonsIn_append, Nat.add_assoc]
        · rw [List.append_eq_nil_iff, empty, alsoEmpty, comparisonsIn_append,
            List.forall_mem_append]
          generalize comparisonsIn (walk child) = a
          generalize comparisonsIn (rest.flatMap fun item => walk item.1) = b
          constructor
          · rintro ⟨⟨sound, few⟩, alsoSound, alsoFew⟩
            exact ⟨⟨sound, alsoSound⟩, by omega⟩
          · rintro ⟨⟨sound, alsoSound⟩, few⟩
            exact ⟨⟨sound, by omega⟩, alsoSound, by omega⟩

theorem sideIssues_eq_nil_iff (path : String) (fields : Dict) :
    (["left", "right"].flatMap fun side =>
      match Dict.find? fields side with
      | some value => if validateReference value then []
          else [issueAt (path ++ "." ++ side) "Variable reference is not allowed"]
      | none => []) = [] ↔ sidesAllowed fields = true := by
  rw [List.flatMap_eq_nil_iff, sidesAllowed, List.all_eq_true]
  refine forall₂_congr fun side _ => ?_
  cases Dict.find? fields side with
  | none => simp
  | some value => cases allowed : validateReference value <;> simp [allowed]

/-- **Validation by the walk.** -/
theorem answers_conditionErrors (levels : Nat) (path : String) (condition : Json) (count : Nat) :
    Answers (visits levels condition) count (conditionErrors levels path condition count) := by
  induction levels generalizing path condition count with
  | zero => exact @answers_fault .tooDeep rfl nofun rfl _ count
  | succ levels ih =>
    rw [conditionErrors, visits]
    cases found : conditionOperator condition with
    | error message => exact List.mem_singleton_self _
    | ok known =>
      cases known with
      | none => exact @answers_fault .malformed rfl nofun rfl _ count
      | some known =>
        obtain ⟨fields, text, operator⟩ := known
        dsimp only
        by_cases connective : operator = .all ∨ operator = .any
        · rw [if_pos connective, if_pos connective]
          cases Dict.get fields "conditions" with
          | arr items =>
            dsimp only
            by_cases bounded : 1 ≤ items.length ∧ items.length ≤ 20
            · rw [if_pos bounded, if_pos bounded]
              have each := answers_each (fun path item count => ih path item count) path
                items.zipIdx count
              have places : (items.zipIdx.flatMap fun item => visits levels item.1) =
                  items.flatMap (visits levels) := by
                rw [← List.flatMap_map Prod.fst (visits levels), List.zipIdx_map_fst]
              rw [places] at each
              exact answers_connective each
            · rw [if_neg bounded, if_neg bounded]
              exact @answers_fault .malformed rfl nofun rfl _ count
          | _ => exact @answers_fault .malformed rfl nofun rfl _ count
        · rw [if_neg connective, if_neg connective]
          by_cases negation : operator = .not
          · rw [if_pos negation, if_pos negation]
            exact answers_connective (ih _ _ count)
          · rw [if_neg negation, if_neg negation]
            have one : comparisonsIn [Encounter.comparison (sidesAllowed fields)] = 1 := rfl
            refine ⟨nofun, by rw [one], ?_⟩
            rw [one, List.append_eq_nil_iff]
            refine (and_congr Iff.rfl (sideIssues_eq_nil_iff path fields)).trans ?_
            cases allowed : sidesAllowed fields with
            | false => simp [Encounter.isSound]
            | true => simp [Encounter.isSound, maxComparisons]

/-! ## Agreement -/

/-- `_condition_errors` returns without a report. -/
def ReportsNothing (condition : Json) : Prop :=
  ∀ path, ∃ count, conditionErrors (maxDepth + 1) path condition 0 = .ok ([], count)

/-- `_condition_errors` returns with a report. -/
def ReportsError (condition : Json) : Prop :=
  ∀ path, ∃ errors count, conditionErrors (maxDepth + 1) path condition 0 = .ok (errors, count) ∧
    errors ≠ []

/-- `evaluate` raises a `ValueError`. -/
def RaisesValueError (py : Interpreter) (condition : Json) (context : Dict) : Prop :=
  ∃ message, evaluate py condition context = .error message ∧ faultOf message = .valueError

/-- The validator and the evaluator agree on a condition. -/
structure ValidatorAgrees (py : Interpreter) (condition : Json) : Prop where
  evaluated : ReportsNothing condition → ∀ context,
    ∃ result, evaluate py condition context = .ok result ∧ result.comparisons ≤ maxComparisons
  reported : (∃ context, RaisesValueError py condition context) → ReportsError condition

theorem isSound_isPassable {encounter : Encounter} (sound : encounter.isSound = true) :
    encounter.isPassable = true := by
  cases encounter with
  | comparison _ => rfl
  | connective => rfl
  | tooDeep => cases sound
  | malformed => cases sound
  | unhashable => cases sound

theorem evaluate_cases (py : Interpreter) (condition : Json) (context : Dict) :
    (∃ result, evaluate py condition context = .ok result ∧
      result.comparisons ≤ maxComparisons ∧
      ∃ left, scan (visits (maxDepth + 1) condition) maxComparisons = .ok left) ∨
    (∃ message, evaluate py condition context = .error message ∧
      scan (visits (maxDepth + 1) condition) maxComparisons = .error (faultOf message)) := by
  have scanned := outcome_evaluateWithin py context (maxDepth + 1) condition maxComparisons
  unfold evaluate
  cases evaluated : evaluateWithin py context (maxDepth + 1) condition maxComparisons with
  | error message =>
    rw [evaluated] at scanned
    exact .inr ⟨message, rfl, scanned.symm⟩
  | ok pair =>
    obtain ⟨result, left⟩ := pair
    rw [evaluated] at scanned
    have taken := comparisons_evaluateWithin py context evaluated
    exact .inl ⟨result, rfl, by omega, left, scanned.symm⟩

theorem scan_of_sound {condition : Json}
    (sound : ∀ encounter ∈ visits (maxDepth + 1) condition, encounter.isSound = true)
    (few : comparisonsIn (visits (maxDepth + 1) condition) ≤ maxComparisons) :
    ∃ left, scan (visits (maxDepth + 1) condition) maxComparisons = .ok left := by
  have passable := fun encounter member => isSound_isPassable (sound encounter member)
  obtain ⟨init, allowed, ends⟩ := exists_last_comparison passable
  rw [ends] at few passable ⊢
  have one : comparisonsIn [Encounter.comparison allowed] = 1 := rfl
  rw [comparisonsIn_append, one] at few
  exact ⟨_, scan_of_last (fun encounter member =>
    passable encounter (List.mem_append_left _ member)) (by omega)⟩

/-- **The validator and the evaluator agree exactly when** no operator that the validator meets is
a list or a dictionary, or the first fault of the condition is such an operator, with fewer than
a hundred comparisons before it. -/
theorem validator_agrees_iff (py : Interpreter) (condition : Json) :
    ValidatorAgrees py condition ↔
      .unhashable ∉ visits (maxDepth + 1) condition ∨
        UnhashableFirst (visits (maxDepth + 1) condition) maxComparisons := by
  have answers := fun path => answers_conditionErrors (maxDepth + 1) path condition 0
  constructor
  · intro agrees
    by_contra apart
    obtain ⟨met, later⟩ := not_or.mp apart
    have met := not_not.mp met
    rcases evaluate_cases py condition [] with ⟨result, -, -, left, scanned⟩ | raised
    · have passable := isPassable_of_scan scanned _ met
      cases passable
    · obtain ⟨message, raised, scanned⟩ := raised
      have value : faultOf message = .valueError := by
        cases kind : faultOf message with
        | valueError => rfl
        | typeError =>
          rw [kind] at scanned
          exact absurd (scan_typeError_iff.mp scanned) later
      obtain ⟨errors, count, reported, -⟩ :=
        agrees.reported ⟨[], message, raised, value⟩ "condition"
      have answer := answers "condition"
      rw [reported] at answer
      exact answer.1 met
  · intro apart
    have silent : ∀ path count,
        conditionErrors (maxDepth + 1) path condition 0 = .ok ([], count) →
        ∃ left, scan (visits (maxDepth + 1) condition) maxComparisons = .ok left := by
      intro path count returned
      have answer := answers path
      rw [returned] at answer
      obtain ⟨sound, few⟩ := answer.2.2.mp rfl
      exact scan_of_sound sound (by omega)
    refine ⟨fun nothing context => ?_, ?_⟩
    · obtain ⟨count, returned⟩ := nothing "condition"
      obtain ⟨left, scanned⟩ := silent "condition" count returned
      rcases evaluate_cases py condition context with ⟨result, done, few, -⟩ | raised
      · exact ⟨result, done, few⟩
      · obtain ⟨message, -, fault⟩ := raised
        rw [scanned] at fault
        cases fault
    · rintro ⟨context, message, raised, value⟩ path
      have fault : scan (visits (maxDepth + 1) condition) maxComparisons = .error .valueError := by
        rcases evaluate_cases py condition context with ⟨result, done, -⟩ | again
        · rw [raised] at done
          cases done
        · obtain ⟨other, same, fault⟩ := again
          rw [raised] at same
          cases same
          rwa [value] at fault
      cases returned : conditionErrors (maxDepth + 1) path condition 0 with
      | error text =>
        have met := answers path
        rw [returned] at met
        have early := scan_typeError_iff.mpr (apart.resolve_left fun hashable => hashable met)
        rw [early] at fault
        cases fault
      | ok pair =>
        obtain ⟨errors, count⟩ := pair
        refine ⟨errors, count, rfl, ?_⟩
        rintro rfl
        obtain ⟨left, scanned⟩ := silent path count returned
        rw [scanned] at fault
        cases fault

def twentyComparisons : Json :=
  .obj [("operator", .str "all"),
    ("conditions", .arr (List.replicate 20 (.obj [("operator", .str "exists")])))]

/-- A hundred comparisons, and an operator that is a list. -/
def spentCondition : Json :=
  .obj [("operator", .str "all"),
    ("conditions", .arr (List.replicate 5 twentyComparisons ++ [.obj [("operator", .arr [])]]))]

/-- Evaluation stops at the limit of comparisons, where validation raises without a report. -/
theorem validator_disagrees :
    ¬∀ (py : Interpreter) (condition : Json), ValidatorAgrees py condition := by
  intro agrees
  let py : Interpreter := ⟨fun _ => [], fun _ => none, fun _ => "", fun _ => "",
    fun _ => false, 900⟩
  have spent : scan (visits (maxDepth + 1) spentCondition) maxComparisons = .error .valueError := by
    decide +kernel
  have met : .unhashable ∈ visits (maxDepth + 1) spentCondition := by decide +kernel
  have raises : RaisesValueError py spentCondition [] := by
    rcases evaluate_cases py spentCondition [] with ⟨_, -, -, left, scanned⟩ | raised
    · rw [spent] at scanned
      cases scanned
    · obtain ⟨message, raised, fault⟩ := raised
      rw [spent] at fault
      exact ⟨message, raised, (Except.error.inj fault).symm⟩
  obtain ⟨errors, count, returned, -⟩ :=
    (agrees py spentCondition).reported ⟨[], raises⟩ "condition"
  have answer := answers_conditionErrors (maxDepth + 1) "condition" spentCondition 0
  rw [returned] at answer
  exact answer.1 met

end ThreatScope.Soar
