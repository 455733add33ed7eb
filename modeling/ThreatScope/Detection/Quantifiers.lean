import ThreatScope.Detection.MissingFields
import ThreatScope.Detection.Modifiers

/-!
# Quantified conditions

A condition such as `2 of mail*` counts the selections whose names start with what stands
before the asterisk. `_parse_condition` expands a pattern without an asterisk in the same way,
so that `all of mail` also counts a selection `mail_subject`. For the names of a rule this
changes nothing exactly when no other name extends the pattern, or the amount is zero or more
than there are names to count (`quantifier_counts_iff`).
-/

set_option autoImplicit false

namespace ThreatScope.Detection

open Library AccessControl

/-! ## The quantified form -/

/-- A condition that is an amount, `of` and a pattern. -/
def QuantifiedForm (tables : UnicodeTables) (condition : String) (amount : Amount)
    (pattern : String) : Prop :=
  ∃ first word, conditionTokens tables condition = [first, word, pattern] ∧
    amount? tables first = some amount ∧ tables.lowered word = "of"

/-- The names that a pattern refers to: those that start with what stands before its asterisk,
and without an asterisk the name itself. -/
def referredNames (names : List String) (pattern : String) : List String :=
  if Text.endsWith pattern "*" then
    names.filter fun name => Text.startsWith name (String.ofList pattern.toList.dropLast)
  else names.filter fun name => name == pattern

/-- All the names hold, or as many as the amount says. -/
def quantified (amount : Amount) (names : List String) (holds : String → Bool) : Bool :=
  match amount with
  | .all => names.all holds
  | .atLeast count => count ≤ names.countP holds

section Reading

variable {tables : UnicodeTables} {names : List String}

theorem lowered_parenthesis : tables.lowered "(" = "(" := by
  simp [UnicodeTables.lowered]

theorem amount?_parenthesis : amount? tables "(" = none := by
  unfold amount?
  have sign : tables.isDigits "(" = false := by
    simp [UnicodeTables.isDigits, UnicodeTables.isDecimal, UnicodeTables.digit?]
  rw [lowered_parenthesis, sign, if_neg Bool.false_ne_true, if_neg (by decide)]

example : amount? asciiRuntime.tables "(" = none := by decide +kernel

/-- **The quantified form** is read as the names that the pattern expands to. -/
theorem unary_of {depth : Nat} {first word pattern : String} {rest : List String}
    {amount : Amount} (number : amount? tables first = some amount)
    (plain : tables.lowered first ≠ "not") (of : tables.lowered word = "of")
    {result : Node × { others : List String // others.length <
      (first :: word :: pattern :: rest).length }}
    (read : unary tables names depth (first :: word :: pattern :: rest) = .ok result) :
    result.1 = .of amount (expandPattern names pattern) ∧ expandPattern names pattern ≠ [] ∧
      result.2.1 = rest := by
  have opening : first ≠ "(" := by
    rintro rfl
    rw [amount?_parenthesis] at number
    cases number
  rw [unary, if_neg plain, if_neg opening] at read
  simp only [number, of, if_true] at read
  cases expanded : expandPattern names pattern with
  | nil =>
    simp only [expanded] at read
    cases read
  | cons one matched =>
    simp only [expanded] at read
    cases read
    exact ⟨rfl, List.cons_ne_nil _ _, rfl⟩

theorem unary_not_of {depth : Nat} {first word pattern : String}
    (negated : tables.lowered first = "not") (of : tables.lowered word = "of")
    {result : Node × { others : List String // others.length < [first, word, pattern].length }}
    (read : unary tables names depth [first, word, pattern] = .ok result) :
    result.2.1 = [pattern] := by
  have opening : word ≠ "(" := by
    rintro rfl
    rw [lowered_parenthesis] at of
    exact absurd of (by decide)
  have single : unary tables names (depth + 1) [word, pattern] =
      selectionNamed names word [pattern] := by
    rw [unary, of, if_neg (by decide), if_neg opening]
    cases amount? tables word with
    | none => rfl
    | some amount => rfl
  rw [unary, if_pos negated, single] at read
  unfold selectionNamed at read
  split at read
  · cases read
  · rename_i node rest same
    split at same
    · cases same
      cases read
      rfl
    · cases same

theorem andLoop_single {depth : Nat} {node : Node} {token : String}
    {result : Node × { others : List String // others.length ≤ [token].length }}
    (read : andLoop tables names depth node [token] = .ok result) : result.2.1 = [token] := by
  rw [andLoop, unary] at read
  split at read
  · cases read
  · cases read
    rfl

theorem orLoop_single {depth : Nat} {node : Node} {token : String}
    {result : Node × { others : List String // others.length ≤ [token].length }}
    (read : orLoop tables names depth node [token] = .ok result) : result.2.1 = [token] := by
  rw [orLoop, conjunction, unary] at read
  split at read
  · cases read
  · cases read
    rfl

/-- **A condition of the quantified form** is that form and nothing else. -/
theorem tree_of_quantifiedForm {condition : String} {amount : Amount} {pattern : String}
    (form : QuantifiedForm tables condition amount pattern) {tree : Node}
    (accepted : parseCondition tables names condition = .ok tree) :
    tree = .of amount (expandPattern names pattern) ∧ expandPattern names pattern ≠ [] := by
  obtain ⟨first, word, tokens, number, of⟩ := form
  unfold parseCondition at accepted
  generalize conditionTokens tables condition = found at accepted tokens
  subst tokens
  simp only at accepted
  split at accepted
  · cases accepted
  rw [expression, if_neg (by decide), conjunction] at accepted
  cases read : unary tables names (0 + 1 + 1) [first, word, pattern] with
  | error message =>
    simp only [read] at accepted
    cases accepted
  | ok result =>
    obtain ⟨node, rest, shorter⟩ := result
    simp only [read] at accepted
    by_cases negated : tables.lowered first = "not"
    · obtain rfl := unary_not_of negated of read
      cases conjoined : andLoop tables names (0 + 1) node [pattern] with
      | error message =>
        simp only [conjoined] at accepted
        cases accepted
      | ok result =>
        obtain ⟨node, rest, shorter⟩ := result
        obtain rfl := andLoop_single conjoined
        simp only [conjoined] at accepted
        cases disjoined : orLoop tables names 0 node [pattern] with
        | error message =>
          simp only [disjoined] at accepted
          cases accepted
        | ok result =>
          obtain ⟨node, rest, shorter⟩ := result
          obtain rfl := orLoop_single disjoined
          simp only [disjoined] at accepted
          cases accepted
    · obtain ⟨rfl, some, rfl⟩ := unary_of number negated of read
      rw [andLoop] at accepted
      simp only at accepted
      rw [orLoop] at accepted
      cases accepted
      exact ⟨rfl, some⟩

end Reading

/-! ## Counting names -/

section Counting

variable {names : List String} {pattern : String} {amount : Amount}

/-- The names that a pattern without an asterisk expands to. -/
def extensions (names : List String) (pattern : String) : List String :=
  names.filter fun name => Text.startsWith name pattern

theorem startsWith_self (text : String) : Text.startsWith text text = true :=
  decide_eq_true (List.prefix_refl _)

theorem resolve_of (outcome : String → Bool) (names : List String) :
    (Node.of amount names).resolve outcome = quantified amount names outcome := by
  cases amount with
  | atLeast count => rfl
  | all =>
    rw [Node.resolve, quantified, Bool.eq_iff_iff, beq_iff_eq, List.countP_eq_length,
      List.all_eq_true]

theorem quantified_perm {first second : List String} (same : first.Perm second)
    (holds : String → Bool) : quantified amount first holds = quantified amount second holds := by
  cases amount with
  | atLeast count => simp only [quantified, same.countP_eq]
  | all => exact same.all_eq

theorem quantified_congr {holds others : String → Bool}
    (same : ∀ name ∈ names, holds name = others name) :
    quantified amount names holds = quantified amount names others := by
  cases amount with
  | atLeast count =>
    have counts : names.countP holds = names.countP others :=
      List.countP_congr fun name inside => by rw [same name inside]
    simp only [quantified, counts]
  | all =>
    rw [quantified, quantified, Bool.eq_iff_iff, List.all_eq_true, List.all_eq_true]
    exact forall₂_congr fun name inside => by rw [same name inside]

/-- With an asterisk the expansion is what the pattern refers to, and without one it is the
extensions. -/
theorem resolve_expandPattern (outcome : String → Bool) :
    (Node.of amount (expandPattern names pattern)).resolve outcome =
      quantified amount (if Text.endsWith pattern "*" then referredNames names pattern
        else extensions names pattern) outcome := by
  rw [resolve_of]
  refine quantified_perm ((List.perm_insertionSort _ _).trans ?_) outcome
  unfold referredNames extensions
  split
  · exact .refl _
  · exact .refl _

theorem length_referred_le (distinct : names.Nodup) (holds : String → Bool) :
    (names.filter fun name => name == pattern).countP holds ≤ 1 := by
  refine List.countP_le_length.trans ?_
  rw [← List.countP_eq_length_filter]
  exact List.nodup_iff_count_le_one.mp distinct pattern

/-- **When extending a name changes no count**: no other name extends it, or the amount is zero
or more than the extensions. -/
theorem quantified_extensions_iff (distinct : names.Nodup) (some : extensions names pattern ≠ []) :
    (∀ holds, quantified amount (extensions names pattern) holds =
        quantified amount (names.filter fun name => name == pattern) holds) ↔
      (∀ name ∈ names, Text.startsWith name pattern = true → name = pattern) ∨
        ∃ count, amount = .atLeast count ∧
          (count = 0 ∨ (extensions names pattern).length < count) := by
  constructor
  · intro same
    by_contra neither
    push Not at neither
    obtain ⟨⟨name, listed, starts, other⟩, amounts⟩ := neither
    have extending : name ∈ extensions names pattern := List.mem_filter.mpr ⟨listed, starts⟩
    cases amount with
    | all =>
      -- Every name but the extension holds.
      have every : quantified .all (names.filter fun name => name == pattern)
          (fun found => found != name) = true := by
        refine List.all_eq_true.mpr fun found inside => ?_
        have equal := beq_iff_eq.mp (List.mem_filter.mp inside).2
        exact bne_iff_ne.mpr fun wrong => other (wrong ▸ equal)
      rw [← same] at every
      have holds := List.all_eq_true.mp every name extending
      exact bne_iff_ne.mp holds rfl
    | atLeast count =>
      obtain ⟨positive, enough⟩ := amounts count rfl
      by_cases one : count = 1
      · -- The extension alone holds.
        have counted : quantified (.atLeast count) (extensions names pattern)
            (fun found => found == name) = true := by
          refine decide_eq_true (one ▸ List.countP_pos_iff.mpr ⟨name, extending, ?_⟩)
          exact beq_iff_eq.mpr rfl
        rw [same] at counted
        have reached := of_decide_eq_true counted
        rw [one] at reached
        obtain ⟨found, inside, holds⟩ := List.countP_pos_iff.mp reached
        have equal := beq_iff_eq.mp (List.mem_filter.mp inside).2
        exact other ((beq_iff_eq.mp holds).symm.trans equal)
      · -- Every name holds.
        have counted : quantified (.atLeast count) (extensions names pattern)
            (fun _ => true) = true := by
          refine decide_eq_true (enough.trans_eq ?_)
          exact (List.countP_eq_length.mpr fun _ _ => rfl).symm
        rw [same] at counted
        have reached := (of_decide_eq_true counted).trans (length_referred_le distinct _)
        omega
  · rintro (alone | ⟨count, rfl, none | few⟩) holds
    · have equal : extensions names pattern = names.filter fun name => name == pattern := by
        refine List.filter_congr fun name listed => ?_
        rw [Bool.eq_iff_iff, beq_iff_eq]
        refine ⟨alone name listed, ?_⟩
        rintro rfl
        exact startsWith_self name
      rw [equal]
    · subst none
      simp only [quantified, Nat.zero_le]
    · have positive := List.length_pos_iff.mpr some
      refine (decide_eq_false ?_).trans (decide_eq_false ?_).symm
      · exact not_le.mpr (List.countP_le_length.trans_lt few)
      · have single := @length_referred_le names pattern distinct holds
        omega

end Counting

/-! ## Selections -/

section Selections

variable {env : DetectionRuntime} {rule : NormalizedRule} {event : Event}

/-- Whether a selection of a rule holds on an event: all its terms do. -/
def selectionHolds (env : DetectionRuntime) (event : Event) (rule : NormalizedRule)
    (name : String) : Bool :=
  rule.selections.any fun selection =>
    selection.1 == name && selection.2.all (holdsOn env event)

theorem outcomeAt_outcomesBy (distinct : rule.names.Nodup) (name : String) :
    outcomeAt (outcomesBy (holdsOn env event) rule) name =
      selectionHolds env event rule name := by
  unfold NormalizedRule.names at distinct
  unfold outcomeAt outcomesBy selectionHolds
  generalize rule.selections = selections at distinct ⊢
  induction selections with
  | nil => rfl
  | cons selection rest ih =>
    obtain ⟨fresh, distinct⟩ := List.nodup_cons.mp distinct
    rw [List.map_cons, List.find?_cons, List.any_cons]
    by_cases same : selection.1 = name
    · have none : (rest.any fun other =>
          other.1 == name && other.2.all (holdsOn env event)) = false := by
        rw [List.any_eq_false]
        rintro other inside both
        have equal := beq_iff_eq.mp ((Bool.and_eq_true _ _).mp both).1
        refine fresh (List.mem_map.mpr ⟨other, inside, ?_⟩)
        rw [equal, same]
      rw [none, beq_iff_eq.mpr same, Bool.true_and, Bool.or_false]
      rfl
    · rw [beq_false_of_ne same, Bool.false_and, Bool.false_or]
      exact ih distinct

/-- **The result of a quantified condition** counts the selections of the expansion. -/
theorem result_of_quantifiedForm (distinct : rule.names.Nodup) {amount : Amount}
    {pattern : String} (form : QuantifiedForm env.tables rule.condition amount pattern)
    (read : ∃ tree, parseCondition env.tables rule.names rule.condition = .ok tree)
    {evaluation : Evaluation} (returned : evaluate env rule event = .ok evaluation) :
    evaluation.result = quantified amount
      (if Text.endsWith pattern "*" then referredNames rule.names pattern
        else extensions rule.names pattern) (selectionHolds env event rule) := by
  obtain ⟨tree, same⟩ := read
  obtain ⟨rfl, -⟩ := tree_of_quantifiedForm form same
  have returns : rule.Returns env event :=
    exists_termResults_iff.mp ((exists_evaluate_iff ⟨_, same⟩).mp ⟨_, returned⟩)
  rw [evaluate_eq same (fun _ => rfl) rfl rfl (termResults_eq returns)] at returned
  cases returned
  have outcomes : outcomeAt (outcomesBy (holdsOn env event) rule) =
      selectionHolds env event rule := by
    funext name
    exact outcomeAt_outcomesBy distinct name
  unfold evaluationBy
  simp only
  rw [outcomes, resolve_expandPattern]

end Selections

/-! ## Rules with any outcomes -/

section Realized

variable {py : Interpreter} {tables : UnicodeTables} (chosen : String → Bool)

/-- A selection that holds on every event or on none. -/
def decidedSelection (holds : Bool) : Json :=
  .obj [(fieldKey "event.id" (Operator.exists.text :: if holds then ["all"] else []), .arr [])]

/-- What is made of it: all of no values, or one of no values. -/
def decidedTerm (holds : Bool) : Term := ⟨"event.id", .exists, .arr [], false, holds⟩

theorem normalizeTerm_decided (holds : Bool) :
    normalizeTerm py 0
        (fieldKey "event.id" (Operator.exists.text :: if holds then ["all"] else [])) (.arr []) =
      .ok (decidedTerm holds, 0) := by
  have key := @normalizeTerm_fieldKey "event.id" .exists [] 0 (by decide +kernel) rfl
    (if holds then ["all"] else []) (by cases holds <;> decide) py 0 rfl (Nat.zero_le _)
  rw [key]
  cases holds with
  | true => rfl
  | false => rfl

theorem evaluateTerm_decided (env : DetectionRuntime) (event : Event) (holds : Bool) :
    evaluateTerm env event (decidedTerm holds) = .ok holds := by
  cases holds with
  | true => rfl
  | false => rfl

theorem normalizeSelections_decided {names : List String} {counted : Nat}
    (valid : ∀ name ∈ names, validName name = true) (few : counted + names.length ≤ 128) :
    normalizeSelections py counted 0
        (names.map fun name => (name, decidedSelection (chosen name))) =
      .ok (names.map fun name => (name, [decidedTerm (chosen name)])) := by
  induction names generalizing counted with
  | nil => rfl
  | cons name rest ih =>
    rw [List.length_cons] at few
    have fields : ¬128 < counted + 1 := by omega
    have later := @ih (counted + 1) (fun other inside =>
      valid other (List.mem_cons_of_mem _ inside))
      (by omega)
    rw [List.map_cons, List.map_cons, decidedSelection, normalizeSelections]
    simp only [valid name List.mem_cons_self, Bool.not_true, Bool.false_eq_true, if_false,
      normalizeTerms, if_neg fields, normalizeTerm_decided, later]

/-- A content with the given names and condition, whose selections are decided. -/
def decidedContent (names : List String) (condition : String) : Dict :=
  [("selections", .obj (names.map fun name => (name, decidedSelection (chosen name)))),
    ("condition", .str condition)]

/-- **Every choice of outcomes** is that of an accepted rule with the same names and the same
condition, on every event. -/
theorem exists_decided {content : Dict} {rule : NormalizedRule}
    (accepted : normalizeRule py tables content = .ok rule) :
    ∃ other, normalizeRule py tables (decidedContent chosen rule.names rule.condition) =
        .ok other ∧
      (other.selections = rule.names.map fun name => (name, [decidedTerm (chosen name)])) ∧
        other.condition = rule.condition := by
  obtain ⟨⟨some, few, valid⟩, condition, short, stripped⟩ := limits_of_normalizeRule accepted
  obtain ⟨-, tree, read⟩ := of_normalizeRule accepted
  have names : (rule.names.map fun name => (name, [decidedTerm (chosen name)])).map Prod.fst =
      rule.names := by
    rw [List.map_map]
    exact List.map_id' _
  have counted : ((rule.names.map fun name => (name, decidedSelection (chosen name))).isEmpty ||
      decide (32 < (rule.names.map fun name =>
        (name, decidedSelection (chosen name))).length)) = false := by
    rw [List.length_map, decide_eq_false (not_lt.mpr few), Bool.or_false, List.isEmpty_map]
    simpa using some
  have found : Dict.get (decidedContent chosen rule.names rule.condition) "detection" = .null :=
    rfl
  have text : ((Dict.get [] "condition").orElse (Dict.get
      (decidedContent chosen rule.names rule.condition) "condition")).orElse (.str "") =
      .str rule.condition := by
    unfold decidedContent
    simp [Dict.get, Dict.find?, Json.orElse, Json.truthy, condition]
  have selections : (Dict.get (decidedContent chosen rule.names rule.condition)
      "selections").orElse (.obj (List.filter (fun field => field.1 != "condition") [])) =
      .obj (rule.names.map fun name => (name, decidedSelection (chosen name))) := by
    unfold decidedContent
    simp [Dict.get, Dict.find?, Json.orElse, Json.truthy, some]
  have printed : textOf py (.str rule.condition) = .ok rule.condition := if_pos rfl
  have made := @normalizeSelections_decided py chosen rule.names 0 valid (by omega)
  have bounded : ¬(rule.condition = "" ∨ 500 < rule.condition.length) :=
    not_or.mpr ⟨condition, not_lt.mpr short⟩
  refine ⟨⟨_, rule.condition⟩, ?_, rfl, rfl⟩
  unfold normalizeRule
  rw [found, show Json.null.orElse (.obj []) = .obj [] from rfl]
  simp only [text, printed, selections, counted, Bool.false_eq_true, if_false, made, stripped,
    if_neg bounded, names, read]

theorem selectionHolds_decided {env : DetectionRuntime} {event : Event}
    {other : NormalizedRule} {names : List String}
    (selections : other.selections = names.map fun name => (name, [decidedTerm (chosen name)]))
    {name : String} (listed : name ∈ names) :
    selectionHolds env event other name = chosen name := by
  have holds (name : String) : holdsOn env event (decidedTerm (chosen name)) = chosen name := by
    unfold holdsOn
    rw [evaluateTerm_decided]
    rfl
  unfold selectionHolds
  rw [selections, List.any_map, Bool.eq_iff_iff, List.any_eq_true]
  simp only [Function.comp, List.all_cons, List.all_nil, Bool.and_true, holds, Bool.and_eq_true,
    beq_iff_eq]
  constructor
  · rintro ⟨other, -, rfl, chosen⟩
    exact chosen
  · intro chosen
    exact ⟨name, listed, rfl, chosen⟩

theorem exists_evaluate_decided {env : DetectionRuntime} {event : Event}
    {other : NormalizedRule} {names : List String}
    (selections : other.selections = names.map fun name => (name, [decidedTerm (chosen name)]))
    (read : ∃ tree, parseCondition env.tables other.names other.condition = .ok tree) :
    ∃ evaluation, evaluate env other event = .ok evaluation := by
  rw [exists_evaluate_iff read, exists_termResults_iff, selections]
  intro selection listed term inside
  obtain ⟨name, -, rfl⟩ := List.mem_map.mp listed
  rw [List.mem_singleton.mp inside]
  exact ⟨_, evaluateTerm_decided env event _⟩

end Realized

/-! ## Exactly the named selections -/

/-- Every accepted rule with the given names and condition counts, on every event, the
selections that the pattern refers to. -/
def CountsNamed (env : DetectionRuntime) (names : List String) (condition : String)
    (amount : Amount) (pattern : String) : Prop :=
  ∀ content rule, normalizeRule env.py env.tables content = .ok rule →
    rule.names = names → rule.condition = condition →
      ∀ event evaluation, evaluate env rule event = .ok evaluation →
        evaluation.result =
          quantified amount (referredNames names pattern) (selectionHolds env event rule)

/-- **Quantified conditions count the named selections** exactly where no extension is counted.
For every accepted rule with a quantified condition, all rules with its names and its condition
count what the pattern refers to exactly when the pattern ends with an asterisk, no other name
extends it, or the amount is zero or more than the names that start with it. -/
theorem quantifier_counts_iff {env : DetectionRuntime} {content : Dict} {rule : NormalizedRule}
    (accepted : normalizeRule env.py env.tables content = .ok rule)
    (distinct : rule.names.Nodup) {amount : Amount} {pattern : String}
    (form : QuantifiedForm env.tables rule.condition amount pattern) :
    CountsNamed env rule.names rule.condition amount pattern ↔
      Text.endsWith pattern "*" = true ∨
        (∀ name ∈ rule.names, Text.startsWith name pattern = true → name = pattern) ∨
          ∃ count, amount = .atLeast count ∧
            (count = 0 ∨ (extensions rule.names pattern).length < count) := by
  obtain ⟨-, tree, read⟩ := of_normalizeRule accepted
  obtain ⟨rfl, expanded⟩ := tree_of_quantifiedForm form read
  have result {content : Dict} {other : NormalizedRule}
      (acceptedToo : normalizeRule env.py env.tables content = .ok other)
      (names : other.names = rule.names) (condition : other.condition = rule.condition)
      {event : Event} {evaluation : Evaluation}
      (returned : evaluate env other event = .ok evaluation) :
      evaluation.result = quantified amount
        (if Text.endsWith pattern "*" then referredNames rule.names pattern
          else extensions rule.names pattern) (selectionHolds env event other) := by
    have counted := result_of_quantifiedForm (names ▸ distinct) (condition ▸ form)
      (of_normalizeRule acceptedToo).2 returned
    rwa [names] at counted
  by_cases starred : Text.endsWith pattern "*" = true
  · refine iff_of_true ?_ (.inl starred)
    intro content other acceptedToo names condition event evaluation returned
    rw [result acceptedToo names condition returned, if_pos starred]
  · have some : extensions rule.names pattern ≠ [] := by
      intro none
      unfold extensions at none
      unfold expandPattern at expanded
      simp only [if_neg starred, none] at expanded
      exact expanded rfl
    have plain : referredNames rule.names pattern =
        rule.names.filter fun name => name == pattern := if_neg starred
    rw [or_iff_right starred, ← quantified_extensions_iff distinct some, CountsNamed, plain]
    constructor
    · intro counts holds
      obtain ⟨other, acceptedToo, selections, condition⟩ := exists_decided holds accepted
      have names : other.names = rule.names := by
        unfold NormalizedRule.names at *
        rw [selections, List.map_map]
        exact List.map_id' _
      obtain ⟨evaluation, returned⟩ := @exists_evaluate_decided holds env (fun _ => .none)
        other rule.names selections (of_normalizeRule acceptedToo).2
      have same := counts _ other acceptedToo names condition _ evaluation returned
      rw [result acceptedToo names condition returned, if_neg starred] at same
      have chosen (names : List String) (inside : ∀ name ∈ names, name ∈ rule.names) :
          quantified amount names (selectionHolds env (fun _ => .none) other) =
            quantified amount names holds :=
        quantified_congr fun name listed =>
          selectionHolds_decided holds selections (inside name listed)
      rw [chosen (extensions rule.names pattern) fun name inside => (List.mem_filter.mp inside).1,
        chosen (rule.names.filter _) fun name inside => (List.mem_filter.mp inside).1] at same
      exact same
    · intro same content other acceptedToo names condition event evaluation returned
      rw [result acceptedToo names condition returned, if_neg starred]
      exact same _

/-! ## Two conditions -/

/-- A rule on a sender and a message, whose selections are called `mail` and `mail_subject`. -/
def mailRule (condition : String) : Dict :=
  [("detection", .obj
    [("mail", .obj [("source.email|endswith", .str "@example.org")]),
      ("mail_subject", .obj [("event.message|contains", .str "invoice")]),
      ("condition", .str condition)])]

theorem names_of_toOption {content : Dict} {rule : NormalizedRule} {names : List String}
    {condition : String}
    (accepted : normalizeRule asciiRuntime.py asciiRuntime.tables content = .ok rule)
    (read : ((normalizeRule asciiRuntime.py asciiRuntime.tables content).toOption.map
      fun rule => (rule.names, rule.condition)) = some (names, condition)) :
    rule.names = names ∧ rule.condition = condition := by
  rw [accepted] at read
  cases read
  exact ⟨rfl, rfl⟩

theorem starred_mail_counts :
    ∃ rule, normalizeRule asciiRuntime.py asciiRuntime.tables (mailRule "all of mail*") =
        .ok rule ∧
      rule.names.Nodup ∧ QuantifiedForm asciiRuntime.tables rule.condition .all "mail*" ∧
      CountsNamed asciiRuntime rule.names rule.condition .all "mail*" := by
  obtain ⟨rule, accepted⟩ := exists_of_toBool (x := normalizeRule asciiRuntime.py
    asciiRuntime.tables (mailRule "all of mail*")) (by decide +kernel)
  obtain ⟨names, condition⟩ := @names_of_toOption _ _ ["mail", "mail_subject"] "all of mail*"
    accepted (by decide +kernel)
  have distinct : rule.names.Nodup := by
    rw [names]
    decide
  have form : QuantifiedForm asciiRuntime.tables rule.condition .all "mail*" := by
    rw [condition]
    exact ⟨"all", "of", by decide +kernel, by decide +kernel, by decide +kernel⟩
  exact ⟨rule, accepted, distinct, form,
    (quantifier_counts_iff accepted distinct form).mpr (.inl (by decide +kernel))⟩

theorem plain_mail_fails :
    ¬ ∀ (env : DetectionRuntime) (content : Dict) (rule : NormalizedRule) (amount : Amount)
      (pattern : String),
      normalizeRule env.py env.tables content = .ok rule → rule.names.Nodup →
      QuantifiedForm env.tables rule.condition amount pattern →
      CountsNamed env rule.names rule.condition amount pattern := by
  intro counts
  obtain ⟨rule, accepted⟩ := exists_of_toBool (x := normalizeRule asciiRuntime.py
    asciiRuntime.tables (mailRule "all of mail")) (by decide +kernel)
  obtain ⟨names, condition⟩ := @names_of_toOption _ _ ["mail", "mail_subject"] "all of mail"
    accepted (by decide +kernel)
  have distinct : rule.names.Nodup := by
    rw [names]
    decide
  have form : QuantifiedForm asciiRuntime.tables rule.condition .all "mail" := by
    rw [condition]
    exact ⟨"all", "of", by decide +kernel, by decide +kernel, by decide +kernel⟩
  obtain ⟨event, built⟩ := exists_of_toBool (x := syntheticEvent asciiRuntime.py
    [("source.email", .str "billing@example.org")]) (by decide +kernel)
  have differ : ((normalizeRule asciiRuntime.py asciiRuntime.tables
      (mailRule "all of mail") >>= fun rule =>
        syntheticEvent asciiRuntime.py [("source.email", .str "billing@example.org")] >>=
          fun event => evaluate asciiRuntime rule event >>= fun evaluation =>
            .ok (evaluation.result == quantified .all (referredNames rule.names "mail")
              (selectionHolds asciiRuntime event rule))).toOption) = some false := by
    decide +kernel
  simp only [accepted, built, bind, Except.bind] at differ
  revert differ
  cases returned : evaluate asciiRuntime rule event with
  | error message => exact (nomatch ·)
  | ok evaluation =>
    have same := counts asciiRuntime _ rule .all "mail" accepted distinct form _ rule accepted
      rfl rfl event evaluation returned
    simp [Except.toOption, same]

end ThreatScope.Detection
