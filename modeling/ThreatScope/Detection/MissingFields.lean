import ThreatScope.Detection.Totality

/-!
# Unsupported fields

The documentation says that a field outside the allowed ones evaluates as missing. A missing
field satisfies `exists` with a false value, but an unsupported term is false before its
operator is looked at. So the two evaluations of a rule are the same exactly when that
difference decides no selection, and, where the condition holds, when there is no such term
to report (`missing_agrees_iff`).
-/

set_option autoImplicit false

namespace ThreatScope.Detection

open Library AccessControl

/-! ## Terms as if their field were missing -/

/-- The same term, evaluated like one on an allowed field. -/
def Term.asSupported (term : Term) : Term := { term with unsupported := false }

/-- The rule whose terms are all evaluated. -/
def NormalizedRule.asSupported (rule : NormalizedRule) : NormalizedRule :=
  { rule with
    selections := rule.selections.map fun selection =>
      (selection.1, selection.2.map Term.asSupported) }

/-- The event in which the fields that are not allowed are absent. -/
def Event.allowed (event : Event) : Event := fun field =>
  if ALLOWED_FIELDS.contains field then event field else .none

/-- An unsupported term that an absent field satisfies: `exists` with a false value. -/
def Term.holdsMissing (term : Term) : Bool :=
  term.unsupported && (term.operator = .exists && (asList term.value).any fun expected =>
    !expected.truthy)

section Definitions

variable (env : DetectionRuntime) (event : Event)

/-- Whether a term is evaluated and holds. -/
def holdsOn (term : Term) : Bool := (evaluateTerm env event term).toOption.getD false

/-- A selection that holds only if its unsupported terms are evaluated. -/
def Flips (terms : List Term) : Prop :=
  (∃ term ∈ terms, term.unsupported = true) ∧
    ∀ term ∈ terms, (term.holdsMissing || holdsOn env event term) = true

/-- The condition of a rule holds for the selections all of whose terms hold. -/
def NormalizedRule.ConditionHolds (rule : NormalizedRule) : Prop :=
  ∃ tree, parseCondition env.tables rule.names rule.condition = .ok tree ∧
    tree.resolve (outcomeAt (rule.selections.map fun selection =>
      (selection.1, selection.2.all (holdsOn env event)))) = true

end Definitions

section Terms

variable {env : DetectionRuntime} {event : Event} {term : Term}

theorem matchValue_none (operator : Operator) (expected : Json) :
    matchValue env .none operator expected =
      .ok (operator = .exists && !expected.truthy) := by
  unfold matchValue
  by_cases same : operator = .exists
  · subst same
    rw [if_pos rfl]
    cases expected.truthy <;> rfl
  · rw [if_neg same]
    simp [same, Value.none, Value.isNone]

theorem Term.asSupported_eq (supported : term.unsupported = false) : term.asSupported = term := by
  cases term
  cases supported
  rfl

theorem Event.allowed_of_mem {field : String} (inside : field ∈ ALLOWED_FIELDS) :
    event.allowed field = event field :=
  if_pos (List.contains_iff_mem.mpr inside)

theorem Event.allowed_of_notMem {field : String} (outside : field ∉ ALLOWED_FIELDS) :
    event.allowed field = .none :=
  if_neg fun inside => outside (List.contains_iff_mem.mp inside)

theorem evaluateTerm_asSupported (unsupported : term.unsupported = true) (single : term.all = false)
    (absent : event term.field = .none) :
    evaluateTerm env event term.asSupported = .ok term.holdsMissing := by
  have checks : term.values.mapM (matchValue env .none term.operator) =
      .ok (term.values.map fun expected => decide (term.operator = .exists) && !expected.truthy) :=
    mapM_eq_ok fun expected _ => matchValue_none term.operator expected
  unfold evaluateTerm
  simp only [Term.asSupported, Bool.false_eq_true, if_false, absent, single]
  unfold Term.values at checks ⊢
  simp only at checks ⊢
  rw [checks]
  simp only [List.any_map, Except.ok.injEq]
  unfold Term.holdsMissing
  rw [unsupported, Bool.true_and]
  by_cases same : term.operator = .exists
  · rw [if_neg (by rw [same]; exact (nomatch ·))]
    simp [same]
  · simp [same]

theorem holdsOn_of_unsupported (unsupported : term.unsupported = true) :
    holdsOn env event term = false := by
  unfold holdsOn evaluateTerm
  rw [if_pos unsupported]
  rfl

example : holdsOn asciiRuntime (fun _ => .none)
    ⟨"registry.key", .exists, .arr [.bool false], true, false⟩ = false := by
  decide +kernel

/-- Where the evaluator returns, it returns what the term says. -/
theorem evaluateTerm_eq_holdsOn (returns : ∃ ok, evaluateTerm env event term = .ok ok) :
    evaluateTerm env event term = .ok (holdsOn env event term) := by
  obtain ⟨ok, same⟩ := returns
  unfold holdsOn
  rw [same]
  rfl

/-- A term of an accepted rule: it is supported when its field is allowed. -/
def Term.Proper (term : Term) : Prop :=
  (term.unsupported = false → term.field ∈ ALLOWED_FIELDS) ∧
    (term.unsupported = true → term.field ∉ ALLOWED_FIELDS ∧ term.all = false)

theorem evaluateTerm_allowed (supported : term.unsupported = false) (proper : term.Proper) :
    evaluateTerm env event.allowed term.asSupported = evaluateTerm env event term := by
  rw [Term.asSupported_eq supported]
  unfold evaluateTerm
  rw [Event.allowed_of_mem (proper.1 supported)]

/-- **A term as if it were supported** holds when it holds, or when an absent field satisfies
it. -/
theorem evaluateTerm_asSupported_of_returns (proper : term.Proper)
    (returns : ∃ ok, evaluateTerm env event term = .ok ok) :
    evaluateTerm env event.allowed term.asSupported =
      .ok (term.holdsMissing || holdsOn env event term) := by
  cases kind : term.unsupported with
  | true =>
    obtain ⟨outside, single⟩ := proper.2 kind
    rw [evaluateTerm_asSupported kind single (Event.allowed_of_notMem outside),
      holdsOn_of_unsupported kind, Bool.or_false]
  | false =>
    have missing : term.holdsMissing = false := by
      unfold Term.holdsMissing
      rw [kind, Bool.false_and]
    rw [evaluateTerm_allowed kind proper, missing, Bool.false_or]
    exact evaluateTerm_eq_holdsOn returns

theorem evaluateTerm_error_iff (proper : term.Proper) (message : String) :
    evaluateTerm env event term = .error message ↔
      evaluateTerm env event.allowed term.asSupported = .error message := by
  cases kind : term.unsupported with
  | true =>
    obtain ⟨outside, single⟩ := proper.2 kind
    rw [evaluateTerm_asSupported kind single (Event.allowed_of_notMem outside)]
    unfold evaluateTerm
    rw [if_pos kind]
    exact iff_of_false (nomatch ·) (nomatch ·)
  | false => rw [evaluateTerm_allowed kind proper]

end Terms

/-! ## The results of the terms -/

section Results

variable {env : DetectionRuntime} {event : Event} {rule : NormalizedRule}

/-- The terms of a rule are proper. -/
def NormalizedRule.Proper (rule : NormalizedRule) : Prop :=
  ∀ selection ∈ rule.selections, ∀ term ∈ selection.2, term.Proper

/-- Every term is evaluated. -/
def NormalizedRule.Returns (env : DetectionRuntime) (event : Event) (rule : NormalizedRule) :
    Prop :=
  ∀ selection ∈ rule.selections, ∀ term ∈ selection.2,
    ∃ ok, evaluateTerm env event term = .ok ok

/-- The results of the terms, as a reading of the terms. -/
def resultsBy (build : Term → Term) (holds : Term → Bool) (rule : NormalizedRule) :
    List (String × List (Term × Bool)) :=
  rule.selections.map fun selection =>
    (selection.1, selection.2.map fun term => (build term, holds term))

theorem termResults_eq (returns : rule.Returns env event) :
    termResults env rule event = .ok (resultsBy id (holdsOn env event) rule) := by
  unfold termResults resultsBy
  refine mapM_eq_ok fun selection listed => ?_
  rw [mapM_eq_ok fun term inside => by
    rw [evaluateTerm_eq_holdsOn (returns selection listed term inside)]
    rfl]
  rfl

theorem termResults_asSupported (proper : rule.Proper) (returns : rule.Returns env event) :
    termResults env rule.asSupported event.allowed =
      .ok (resultsBy Term.asSupported (fun term => term.holdsMissing || holdsOn env event term)
        rule) := by
  unfold termResults resultsBy NormalizedRule.asSupported
  rw [List.mapM_map]
  refine mapM_eq_ok fun selection listed => ?_
  rw [Function.comp, List.mapM_map, mapM_eq_ok fun term inside => by
    rw [Function.comp, evaluateTerm_asSupported_of_returns (proper selection listed term inside)
      (returns selection listed term inside)]
    rfl]
  rfl

theorem termResults_error_iff (proper : rule.Proper) (message : String) :
    termResults env rule event = .error message ↔
      termResults env rule.asSupported event.allowed = .error message := by
  have mapped {α β : Type} (x : Except String α) (read : α → β) (error : String) :
      x.map read = .error error ↔ x = .error error := by
    cases x with
    | error wrong => simp [Except.map]
    | ok result => exact iff_of_false (nomatch ·) (nomatch ·)
  unfold termResults NormalizedRule.asSupported
  rw [List.mapM_map]
  refine mapM_error_congr (fun selection listed error => ?_) message
  rw [Function.comp, List.mapM_map, mapped, mapped]
  refine mapM_error_congr (fun term inside wrong => ?_) error
  rw [Function.comp, mapped, mapped]
  exact evaluateTerm_error_iff (proper selection listed term inside) wrong

end Results

/-! ## The two evaluations -/

section Comparison

variable {env : DetectionRuntime} {event : Event} {rule : NormalizedRule}
  {build : Term → Term} {holds more : Term → Bool}

/-- The outcomes of the selections, for a reading of the terms. -/
def outcomesBy (holds : Term → Bool) (rule : NormalizedRule) : List (String × Bool) :=
  rule.selections.map fun selection => (selection.1, selection.2.all holds)

theorem outcomesOf_resultsBy (build : Term → Term) (holds : Term → Bool) (rule : NormalizedRule) :
    outcomesOf (resultsBy build holds rule) = outcomesBy holds rule := by
  unfold outcomesOf resultsBy outcomesBy
  rw [List.map_map]
  refine List.map_congr_left fun selection _ => ?_
  simp only [Function.comp, List.all_map]
  rfl

/-- The fields of the terms that hold. -/
def fieldsBy (holds : Term → Bool) (rule : NormalizedRule) : List String :=
  ((rule.selections.flatMap Prod.snd).filter holds).map Term.field

theorem matchedFields_resultsBy (kept : ∀ term, (build term).field = term.field)
    (holds : Term → Bool) (rule : NormalizedRule) (event : Event) :
    matchedFields event (resultsBy build holds rule) =
      (fieldsBy holds rule).eraseDups.map fun field => (field, event field) := by
  unfold matchedFields resultsBy fieldsBy
  congr 2
  induction rule.selections with
  | nil => rfl
  | cons selection rest ih =>
    rw [List.map_cons, List.flatMap_cons, List.flatMap_cons, List.filter_append,
      List.filter_append, List.map_append, List.map_append, ih]
    congr 1
    rw [List.filter_map, List.map_map]
    refine List.map_congr_left fun term _ => ?_
    exact kept term

/-- What an evaluation returns, for a reading of the terms. -/
def evaluationBy (event : Event) (tree : Node) (holds : Term → Bool) (rule : NormalizedRule) :
    Evaluation :=
  let result := tree.resolve (outcomeAt (outcomesBy holds rule))
  ⟨result,
    if result then (fieldsBy holds rule).eraseDups.map fun field => (field, event field) else [],
    (((outcomesBy holds rule).filter Prod.snd).map Prod.fst).insertionSort (· ≤ ·)⟩

theorem evaluate_eq {tree : Node}
    (read : parseCondition env.tables rule.names rule.condition = .ok tree)
    (kept : ∀ term, (build term).field = term.field) {other : NormalizedRule}
    (names : other.names = rule.names) (condition : other.condition = rule.condition)
    (returned : termResults env other event = .ok (resultsBy build holds rule)) :
    evaluate env other event = .ok (evaluationBy event tree holds rule) := by
  have outcomes := names_of_termResults returned
  unfold evaluate
  simp only [returned, outcomes, names, condition, read]
  rw [outcomesOf_resultsBy, matchedFields_resultsBy kept]
  rfl

/-- Only terms on allowed fields hold, so that the other fields are not reported. -/
theorem evaluationBy_allowed (proper : rule.Proper) (tree : Node) :
    evaluationBy event tree (holdsOn env event) rule =
      evaluationBy event.allowed tree (holdsOn env event) rule := by
  have alike :
      (fieldsBy (holdsOn env event) rule).eraseDups.map (fun field => (field, event field)) =
        (fieldsBy (holdsOn env event) rule).eraseDups.map fun field =>
          (field, event.allowed field) := by
    refine List.map_congr_left fun field reported => ?_
    obtain ⟨term, held, rfl⟩ := List.mem_map.mp (List.mem_eraseDups.mp reported)
    obtain ⟨place, holds⟩ := List.mem_filter.mp held
    obtain ⟨selection, listed, inside⟩ := List.mem_flatMap.mp place
    refine congrArg _ (Event.allowed_of_mem ((proper selection listed term inside).1 ?_)).symm
    by_contra unsupported
    rw [holdsOn_of_unsupported (Bool.not_eq_false _ ▸ unsupported)] at holds
    cases holds
  unfold evaluationBy
  rw [alike]

theorem eq_of_countP_eq {α : Type} {first second : α → Bool} {items : List α}
    (implies : ∀ item ∈ items, first item = true → second item = true)
    (same : items.countP first = items.countP second) :
    ∀ item ∈ items, first item = second item := by
  induction items with
  | nil => exact fun _ inside => absurd inside List.not_mem_nil
  | cons item rest ih =>
    have later := List.countP_mono_left fun next inside =>
      implies next (List.mem_cons_of_mem _ inside)
    have here := implies item List.mem_cons_self
    rw [List.countP_cons, List.countP_cons] at same
    have head : first item = second item := by
      cases one : first item with
      | true => rw [here one]
      | false =>
        cases two : second item with
        | false => rfl
        | true =>
          rw [one, two] at same
          simp only [Bool.false_eq_true, if_false, if_true] at same
          omega
    intro next inside
    rcases List.mem_cons.mp inside with rfl | behind
    · exact head
    · rw [head] at same
      exact ih (fun next inside => implies next (List.mem_cons_of_mem _ inside))
        (Nat.add_right_cancel same) next behind

theorem outcomes_eq_of_names {tree : Node} (implies : ∀ term, holds term = true → more term = true)
    (same : (evaluationBy event tree holds rule).selections =
      (evaluationBy event tree more rule).selections) :
    outcomesBy holds rule = outcomesBy more rule := by
  have counts (holds : Term → Bool) : (evaluationBy event tree holds rule).selections.length =
      rule.selections.countP fun selection => selection.2.all holds := by
    unfold evaluationBy outcomesBy
    simp only
    rw [List.length_insertionSort, List.length_map, ← List.countP_eq_length_filter,
      List.countP_map]
    rfl
  unfold outcomesBy
  refine List.map_congr_left fun selection listed => ?_
  refine Prod.ext rfl ?_
  refine @eq_of_countP_eq _ (fun selection => selection.2.all holds)
    (fun selection => selection.2.all more) rule.selections ?_ ?_ selection listed
  · intro other _ all
    exact List.all_eq_true.mpr fun term inside => implies term (List.all_eq_true.mp all term inside)
  · rw [← counts, ← counts, same]

/-- With the same outcomes, the two report the same fields exactly when the condition does not
hold or the same terms do. -/
theorem evaluationBy_eq_iff {tree : Node} (implies : ∀ term, holds term = true → more term = true) :
    evaluationBy event tree holds rule = evaluationBy event tree more rule ↔
      outcomesBy holds rule = outcomesBy more rule ∧
        (tree.resolve (outcomeAt (outcomesBy holds rule)) = true →
          (fieldsBy holds rule).eraseDups = (fieldsBy more rule).eraseDups) := by
  constructor
  · intro same
    have outcomes := outcomes_eq_of_names implies (congrArg Evaluation.selections same)
    refine ⟨outcomes, fun holding => ?_⟩
    have matched := congrArg (fun evaluation => evaluation.matched.map Prod.fst) same
    unfold evaluationBy at matched
    rw [← outcomes] at matched
    simp only [holding, if_true, List.map_map, Function.comp_def, List.map_id'] at matched
    exact matched
  · rintro ⟨outcomes, fields⟩
    unfold evaluationBy
    rw [← outcomes]
    by_cases holding : tree.resolve (outcomeAt (outcomesBy holds rule)) = true
    · simp only [holding, if_true, fields holding]
    · simp only [holding, if_false, Bool.false_eq_true]

theorem outcomesBy_eq_iff :
    outcomesBy (holdsOn env event) rule =
        outcomesBy (fun term => term.holdsMissing || holdsOn env event term) rule ↔
      ∀ selection ∈ rule.selections, ¬Flips env event selection.2 := by
  unfold outcomesBy
  rw [List.map_inj_left]
  refine forall₂_congr fun selection _ => ?_
  rw [Prod.mk.injEq, and_iff_right rfl]
  constructor
  · rintro same ⟨⟨term, inside, kind⟩, all⟩
    rw [List.all_eq_true.mpr all] at same
    have holds := List.all_eq_true.mp same term inside
    rw [holdsOn_of_unsupported kind] at holds
    cases holds
  · intro never
    rw [Bool.eq_iff_iff, List.all_eq_true, List.all_eq_true]
    constructor
    · intro all term inside
      rw [all term inside, Bool.or_true]
    · intro all term inside
      by_contra fails
      refine never ⟨⟨term, inside, ?_⟩, all⟩
      have missing := (Bool.or_eq_true _ _).mp (all term inside)
      exact ((Bool.and_eq_true _ _).mp (missing.resolve_right fails)).1

theorem fieldsBy_eq_iff (proper : rule.Proper) :
    (fieldsBy (holdsOn env event) rule).eraseDups =
        (fieldsBy (fun term => term.holdsMissing || holdsOn env event term) rule).eraseDups ↔
      ∀ selection ∈ rule.selections, ∀ term ∈ selection.2, term.holdsMissing = false := by
  constructor
  · intro same selection listed term inside
    by_contra missing
    have missing := Bool.not_eq_false _ ▸ missing
    have kind : term.unsupported = true := ((Bool.and_eq_true _ _).mp missing).1
    have reported : term.field ∈ (fieldsBy (fun term => term.holdsMissing ||
        holdsOn env event term) rule).eraseDups := by
      rw [List.mem_eraseDups]
      refine List.mem_map_of_mem (List.mem_filter.mpr ⟨?_, ?_⟩)
      · exact List.mem_flatMap.mpr ⟨selection, listed, inside⟩
      · rw [missing, Bool.true_or]
    rw [← same, List.mem_eraseDups] at reported
    obtain ⟨other, held, field⟩ := List.mem_map.mp reported
    obtain ⟨place, holds⟩ := List.mem_filter.mp held
    obtain ⟨another, alsoListed, alsoInside⟩ := List.mem_flatMap.mp place
    refine ((proper selection listed term inside).2 kind).1 (field ▸ ?_)
    refine (proper another alsoListed other alsoInside).1 ?_
    by_contra unsupported
    rw [holdsOn_of_unsupported (Bool.not_eq_false _ ▸ unsupported)] at holds
    cases holds
  · intro none_missing
    unfold fieldsBy
    congr 2
    refine List.filter_congr fun term place => ?_
    obtain ⟨selection, listed, inside⟩ := List.mem_flatMap.mp place
    rw [none_missing selection listed term inside, Bool.false_or]

/-- **Unsupported fields evaluate as missing** exactly where that decides nothing. For every
accepted content and every event, the rule is evaluated as if its unsupported terms were on an
absent field exactly when the evaluation fails in a conversion, or no selection holds only with
those terms and, where the condition holds, none of them is satisfied. -/
theorem missing_agrees_iff {content : Dict}
    (accepted : normalizeRule env.py env.tables content = .ok rule) (event : Event) :
    evaluate env rule event = evaluate env rule.asSupported event.allowed ↔
      (rule.MeetsTooLarge env event ∨ rule.MeetsUnwritable event) ∨
        ((∀ selection ∈ rule.selections, ¬Flips env event selection.2) ∧
          (rule.ConditionHolds env event →
            ∀ selection ∈ rule.selections, ∀ term ∈ selection.2, term.holdsMissing = false)) := by
  have proper : rule.Proper := eachTerm_field.of_normalizeRule accepted
  obtain ⟨tree, read⟩ := (of_normalizeRule accepted).2
  have names : rule.asSupported.names = rule.names := by
    unfold NormalizedRule.names NormalizedRule.asSupported
    rw [List.map_map]
    rfl
  have returning := exists_evaluate_iff_of_normalizeRule accepted event
  by_cases met : rule.MeetsTooLarge env event ∨ rule.MeetsUnwritable event
  · refine iff_of_true ?_ (.inl met)
    cases results : termResults env rule event with
    | ok results =>
      exact absurd met (returning.mp ((exists_evaluate_iff ⟨tree, read⟩).mpr ⟨_, results⟩))
    | error message =>
      have alike := (termResults_error_iff proper message).mp results
      unfold evaluate
      rw [results, alike]
  · have returns : rule.Returns env event :=
      exists_termResults_iff.mp ((exists_evaluate_iff ⟨tree, read⟩).mp (returning.mpr met))
    rw [or_iff_right met,
      evaluate_eq read (fun _ => rfl) rfl rfl (termResults_eq returns),
      evaluate_eq read (fun term => (rfl : term.asSupported.field = term.field)) names rfl
        (termResults_asSupported proper returns),
      Except.ok.injEq, evaluationBy_allowed proper,
      evaluationBy_eq_iff fun term holds => by rw [holds, Bool.or_true],
      outcomesBy_eq_iff, fieldsBy_eq_iff proper]
    unfold NormalizedRule.ConditionHolds
    simp only [read, Except.ok.injEq, exists_eq_left']
    rfl

theorem not_flips {terms : List Term} (none_missing : ∀ term ∈ terms, term.holdsMissing = false) :
    ¬Flips env event terms := by
  rintro ⟨⟨term, inside, kind⟩, all⟩
  have holds := all term inside
  rw [none_missing term inside, holdsOn_of_unsupported kind] at holds
  cases holds

end Comparison

/-! ## Two runs -/

/-- A rule about a field that is not allowed. -/
def registryRule (key : String) (value : Json) : Dict :=
  [("detection", .obj
    [("quiet", .obj [(key, value)]), ("condition", .str "not quiet")])]

/-- An event of a stored kind: a moment, a severity and a field that is not allowed. -/
def registryEvent : Event := fun field =>
  if field = "timestamp" then .datetime 0
  else if field = "event.severity" then .json (.str "high")
  else if field = "registry.key" then .json (.str "HKLM\\Run")
  else .none

theorem registry_contains_agrees :
    ∃ rule, normalizeRule asciiRuntime.py asciiRuntime.tables
        (registryRule "registry.key|contains" (.str "Run")) = .ok rule ∧
      evaluate asciiRuntime rule registryEvent =
        evaluate asciiRuntime rule.asSupported registryEvent.allowed := by
  obtain ⟨rule, accepted⟩ := exists_of_toBool (x := normalizeRule asciiRuntime.py
    asciiRuntime.tables (registryRule "registry.key|contains" (.str "Run"))) (by decide +kernel)
  have terms : ((normalizeRule asciiRuntime.py asciiRuntime.tables
      (registryRule "registry.key|contains" (.str "Run"))).toOption.map fun rule =>
        rule.selections.all fun selection => selection.2.all fun term => !term.holdsMissing) =
      some true := by decide +kernel
  rw [accepted] at terms
  have none_missing : ∀ selection ∈ rule.selections, ∀ term ∈ selection.2,
      term.holdsMissing = false := by
    intro selection listed term inside
    have all := List.all_eq_true.mp (Option.some.inj terms) selection listed
    exact Bool.not_eq_true' _ ▸ List.all_eq_true.mp all term inside
  refine ⟨rule, accepted, (missing_agrees_iff accepted registryEvent).mpr (.inr ⟨?_, ?_⟩)⟩
  · exact fun selection listed => not_flips (none_missing selection listed)
  · exact fun _ => none_missing

theorem registry_absence_fails :
    ¬ ∀ (env : DetectionRuntime) (content : Dict) (rule : NormalizedRule) (event : Event),
      normalizeRule env.py env.tables content = .ok rule →
      evaluate env rule event = evaluate env rule.asSupported event.allowed := by
  intro agrees
  obtain ⟨rule, accepted⟩ := exists_of_toBool (x := normalizeRule asciiRuntime.py
    asciiRuntime.tables (registryRule "registry.key|exists" (.bool false))) (by decide +kernel)
  have differ : ((normalizeRule asciiRuntime.py asciiRuntime.tables
      (registryRule "registry.key|exists" (.bool false)) >>= fun rule =>
        evaluate asciiRuntime rule (fun _ => .none) >>= fun first =>
          evaluate asciiRuntime rule.asSupported (Event.allowed fun _ => .none) >>= fun second =>
            .ok (first.result != second.result)).toOption) = some true := by decide +kernel
  simp only [accepted, bind, Except.bind,
    agrees asciiRuntime _ rule (fun _ => .none) accepted] at differ
  revert differ
  cases evaluate asciiRuntime rule.asSupported (Event.allowed fun _ => .none) with
  | error message => exact (nomatch ·)
  | ok result => simp [Except.toOption]

end ThreatScope.Detection
