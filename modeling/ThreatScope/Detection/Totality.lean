import ThreatScope.Detection.Events
import ThreatScope.Library.Traversals

/-!
# Where an evaluation fails

What `normalize_rule` and `synthetic_event` accept can be written as text, and the condition
of an accepted rule can be read again. So an evaluation can only fail in a conversion to a
float: the numeric operators catch type and value errors, and an integer from
`2 ** 1024 - 2 ** 970` on raises an `OverflowError` (`evaluation_returns_iff`).
-/

set_option autoImplicit false

namespace ThreatScope.Detection

open Library AccessControl

/-- `gt`, `gte`, `lt` and `lte`. -/
def Operator.isNumeric : Operator → Bool
  | .gt => true
  | .gte => true
  | .lt => true
  | .lte => true
  | _ => false

/-- An integer that is no float. -/
def TooLarge (value : Json) : Prop := ∃ number, value = .int number ∧ floatLimit ≤ number.natAbs

/-- A numeric comparison meets an integer that is no float: the value of the field, or, behind
one that converts, a value of the rule. -/
def NormalizedRule.MeetsTooLarge (env : DetectionRuntime) (rule : NormalizedRule)
    (event : Event) : Prop :=
  ∃ selection ∈ rule.selections, ∃ term ∈ selection.2, term.unsupported = false ∧
    term.operator.isNumeric = true ∧ ∃ expected ∈ asList term.value,
      (∃ actual, event term.field = .json actual ∧ TooLarge actual) ∨
        ((∃ left, (event term.field).float env = .value left) ∧ TooLarge expected)

/-- The operators that compare texts, without those that catch what `str` raises. -/
def Operator.isTextual : Operator → Bool
  | .exists => false
  | .cidr => false
  | .in => false
  | operator => !operator.isNumeric

/-- The value of a field has no text: it is or holds an integer of too many digits. -/
def Value.Unwritable (actual : Value) : Prop :=
  ∃ value, actual = .json value ∧ printable value = false

/-- A textual comparison meets the value of a field that has no text. -/
def NormalizedRule.MeetsUnwritable (rule : NormalizedRule) (event : Event) : Prop :=
  ∃ selection ∈ rule.selections, ∃ term ∈ selection.2, term.unsupported = false ∧
    term.operator.isTextual = true ∧ ∃ _ ∈ asList term.value, (event term.field).Unwritable

/-! ## Values that have a text -/

section Printable

variable {py : Interpreter} {value : Json}

theorem printableFields_iff {fields : Dict} :
    printableFields fields = true ↔ ∀ field ∈ fields, printable field.2 = true := by
  induction fields with
  | nil => simp [printableFields]
  | cons field rest ih => simp [printableFields, ih]

theorem textOf_eq_ok {text : String} (read : textOf py value = .ok text) :
    printable value = true := by
  unfold textOf at read
  split at read
  · assumption
  · cases read

theorem exists_textOf (short : printable value = true) : ∃ text, textOf py value = .ok text :=
  ⟨_, if_pos short⟩

theorem printable_payloadValue {payload : Dict} (short : printable (.obj payload) = true)
    (field : String) : printable (payloadValue payload field) = true := by
  unfold payloadValue
  cases found : payload.reverse.find? fun entry => canonicalField entry.1 == field with
  | none => rfl
  | some entry =>
    have inside := List.mem_reverse.mp (List.mem_of_find?_eq_some found)
    exact printableFields_iff.mp short entry inside

example : printable (payloadValue [("threat.confidence", .int 80)] "threat.confidence") = true := by
  decide +kernel

end Printable

/-! ## Accepted rules and events -/

/-- A term whose values have a text. -/
def Term.Printable (term : Term) : Prop :=
  term.unsupported = false → ∀ expected ∈ asList term.value, printable expected = true

section Accepted

variable {py : Interpreter}

theorem printable_of_countWildcards {values : List Json} {count : Nat}
    (counted : countWildcards py values = .ok count) :
    ∀ value ∈ values, printable value = true := by
  induction values generalizing count with
  | nil => exact fun _ inside => absurd inside List.not_mem_nil
  | cons value rest ih =>
    unfold countWildcards at counted
    split at counted
    · cases counted
    · rename_i text read
      split at counted
      · cases counted
      · rename_i others later
        intro other inside
        rcases List.mem_cons.mp inside with rfl | behind
        · exact textOf_eq_ok read
        · exact ih later other behind

theorem eachTerm_printable : EachTerm py Term.Printable := by
  rintro counted rawField rawValue result normalized
  unfold normalizeTerm at normalized
  simp only at normalized
  split at normalized
  · cases normalized
    exact fun supported => nomatch supported
  · split at normalized
    · cases normalized
    · split at normalized
      · cases normalized
      · split at normalized
        · cases normalized
        · rename_i count read
          split at normalized
          · cases normalized
          · cases normalized
            exact fun _ => printable_of_countWildcards read

/-- **An accepted event**: the values of its fields are JSON and have a text. -/
theorem of_syntheticEvent {payload : Dict} {event : Event}
    (built : syntheticEvent py payload = .ok event) (field : String) :
    ∃ actual, event field = .json actual ∧ printable actual = true := by
  obtain ⟨short, fields⟩ := apply_of_syntheticEvent built
  rw [fields]
  split
  · exact ⟨_, rfl, printable_payloadValue short field⟩
  · exact ⟨.null, rfl, rfl⟩

end Accepted

/-! ## Conversions -/

section Conversions

variable {env : DetectionRuntime} {actual : Value} {expected : Json} {operator : Operator}

theorem floatOf_eq_overflow_iff (env : DetectionRuntime) (actual : Json) :
    floatOf env actual = .overflow ↔ TooLarge actual := by
  unfold TooLarge
  cases actual with
  | int number =>
    simp only [floatOf, Json.int.injEq, exists_eq_left']
    by_cases small : number.natAbs < floatLimit
    · rw [if_pos small]
      exact iff_of_false (nomatch ·) (not_le.mpr small)
    · rw [if_neg small]
      exact iff_of_true rfl (not_lt.mp small)
  | str text =>
    simp only [floatOf]
    cases env.parseFloat text with
    | none => exact iff_of_false (nomatch ·) (by simp)
    | some value => exact iff_of_false (nomatch ·) (by simp)
  | _ =>
    simp only [floatOf]
    exact iff_of_false (nomatch ·) (by simp)

theorem Value.float_eq_overflow_iff :
    actual.float env = .overflow ↔ ∃ value, actual = .json value ∧ TooLarge value := by
  cases actual with
  | json value =>
    simp only [Value.float, Value.json.injEq, exists_eq_left']
    exact floatOf_eq_overflow_iff env value
  | datetime moment => exact iff_of_false (nomatch ·) fun ⟨_, same, _⟩ => nomatch same

theorem exists_matchNumber_iff :
    (∃ ok, matchNumber env operator actual expected = .ok ok) ↔
      ¬((∃ value, actual = .json value ∧ TooLarge value) ∨
        ((∃ left, actual.float env = .value left) ∧ TooLarge expected)) := by
  rw [← @Value.float_eq_overflow_iff env actual, ← floatOf_eq_overflow_iff env]
  unfold matchNumber
  cases actual.float env with
  | refused => simp
  | overflow => simp
  | value left =>
    cases floatOf env expected with
    | refused => simp
    | overflow => simp
    | value right => simp

theorem exists_matchText_iff (short : printable expected = true) :
    (∃ ok, matchText env operator actual expected = .ok ok) ↔ ¬actual.Unwritable := by
  obtain ⟨other, alsoRead⟩ := @exists_textOf env.py _ short
  unfold matchText Value.Unwritable
  cases actual with
  | datetime moment =>
    simp only [Value.text, alsoRead]
    exact iff_of_true ⟨_, rfl⟩ fun ⟨_, same, _⟩ => nomatch same
  | json value =>
    simp only [Value.text, alsoRead, Value.json.injEq, exists_eq_left', Bool.not_eq_false]
    cases written : printable value with
    | true =>
      obtain ⟨text, read⟩ := @exists_textOf env.py _ written
      simp only [read]
      exact iff_of_true ⟨_, rfl⟩ trivial
    | false =>
      unfold textOf
      simp [written]

/-- **A value is matched without an exception** unless a numeric comparison overflows or a
textual one meets a value without a text. -/
theorem exists_matchValue_iff (short : printable expected = true) :
    (∃ ok, matchValue env actual operator expected = .ok ok) ↔
      ¬((operator.isNumeric = true ∧ ((∃ value, actual = .json value ∧ TooLarge value) ∨
          ((∃ left, actual.float env = .value left) ∧ TooLarge expected))) ∨
        (operator.isTextual = true ∧ actual.Unwritable)) := by
  unfold matchValue
  split
  case isTrue same =>
    subst same
    exact iff_of_true ⟨_, rfl⟩ fun either => either.elim (nomatch ·.1) (nomatch ·.1)
  case isFalse another =>
    split
    case isTrue missing =>
      have null : actual = .json .null := by
        cases actual with
        | datetime moment => cases missing
        | json value =>
          cases value with
          | null => rfl
          | _ => cases missing
      subst null
      refine iff_of_true ⟨_, rfl⟩ ?_
      rintro (⟨-, ⟨value, same, number, wrong, -⟩ | ⟨⟨left, wrong⟩, -⟩⟩ | ⟨-, value, same, wrong⟩)
      · cases same
        cases wrong
      · cases wrong
      · cases same
        cases wrong
    case isFalse =>
      cases operator with
      | gt => simpa [Operator.isNumeric, Operator.isTextual] using exists_matchNumber_iff
      | gte => simpa [Operator.isNumeric, Operator.isTextual] using exists_matchNumber_iff
      | lt => simpa [Operator.isNumeric, Operator.isTextual] using exists_matchNumber_iff
      | lte => simpa [Operator.isNumeric, Operator.isTextual] using exists_matchNumber_iff
      | cidr =>
        exact iff_of_true ⟨_, rfl⟩ fun either => either.elim (nomatch ·.1) (nomatch ·.1)
      | «in» =>
        exact iff_of_true ⟨_, rfl⟩ fun either => either.elim (nomatch ·.1) (nomatch ·.1)
      | «exists» => exact absurd rfl another
      | _ =>
        refine (exists_matchText_iff short).trans (not_congr ?_)
        simp [Operator.isNumeric, Operator.isTextual]

end Conversions

/-! ## Evaluations -/

section Evaluations

variable {env : DetectionRuntime} {rule : NormalizedRule} {event : Event} {term : Term}

theorem exists_evaluateTerm (supported : term.unsupported = false) :
    (∃ ok, evaluateTerm env event term = .ok ok) ↔
      ∀ expected ∈ term.values,
        ∃ ok, matchValue env (event term.field) term.operator expected = .ok ok := by
  rw [← exists_mapM_eq_ok_iff]
  unfold evaluateTerm
  simp only [supported, Bool.false_eq_true, if_false]
  cases term.values.mapM (matchValue env (event term.field) term.operator) with
  | error message => simp
  | ok checks => simp

theorem exists_evaluateTerm_iff (printed : term.Printable) :
    (∃ ok, evaluateTerm env event term = .ok ok) ↔
      ¬((term.unsupported = false ∧ term.operator.isNumeric = true ∧
          ∃ expected ∈ asList term.value,
            (∃ value, event term.field = .json value ∧ TooLarge value) ∨
              ((∃ left, (event term.field).float env = .value left) ∧ TooLarge expected)) ∨
        (term.unsupported = false ∧ term.operator.isTextual = true ∧
          ∃ _ ∈ asList term.value, (event term.field).Unwritable)) := by
  cases supported : term.unsupported with
  | true =>
    refine iff_of_true ⟨false, ?_⟩ fun either => either.elim (nomatch ·.1) (nomatch ·.1)
    unfold evaluateTerm
    rw [if_pos supported]
  | false =>
    rw [exists_evaluateTerm supported]
    unfold Term.values
    by_cases inside : term.operator = .in
    · rw [if_pos inside, inside]
      refine iff_of_true ?_ fun either => either.elim (nomatch ·.2.1) (nomatch ·.2.1)
      intro expected _
      unfold matchValue
      rw [if_neg (nomatch ·)]
      split
      · exact ⟨_, rfl⟩
      · exact ⟨_, rfl⟩
    · rw [if_neg inside]
      constructor
      · rintro each (⟨-, numeric, expected, listed, large⟩ | ⟨-, textual, expected, listed, long⟩)
        · exact (exists_matchValue_iff (printed supported expected listed)).mp
            (each expected listed) (.inl ⟨numeric, large⟩)
        · exact (exists_matchValue_iff (printed supported expected listed)).mp
            (each expected listed) (.inr ⟨textual, long⟩)
      · intro small expected listed
        refine (exists_matchValue_iff (printed supported expected listed)).mpr ?_
        rintro (⟨numeric, large⟩ | ⟨textual, long⟩)
        · exact small (.inl ⟨rfl, numeric, expected, listed, large⟩)
        · exact small (.inr ⟨rfl, textual, expected, listed, long⟩)

theorem exists_termResults_iff :
    (∃ results, termResults env rule event = .ok results) ↔
      ∀ selection ∈ rule.selections, ∀ term ∈ selection.2,
        ∃ ok, evaluateTerm env event term = .ok ok := by
  have mapped {α β : Type} (first : Except String α) (read : α → β) :
      (∃ result, first.map read = .ok result) ↔ ∃ result, first = .ok result := by
    cases first with
    | error message => exact iff_of_false (by rintro ⟨_, same⟩; cases same) (by simp)
    | ok value => exact iff_of_true ⟨_, rfl⟩ ⟨_, rfl⟩
  unfold termResults
  rw [exists_mapM_eq_ok_iff]
  refine forall₂_congr fun selection _ => ?_
  rw [mapped, exists_mapM_eq_ok_iff]
  exact forall₂_congr fun term _ => mapped _ _

theorem names_of_termResults {results : List (String × List (Term × Bool))}
    (returned : termResults env rule event = .ok results) :
    (outcomesOf results).map Prod.fst = rule.names := by
  unfold outcomesOf NormalizedRule.names
  rw [List.map_map]
  refine map_eq_of_mapM (fun selection result same => ?_) returned
  cases terms : selection.2.mapM fun term =>
      (evaluateTerm env event term).map fun ok => (term, ok) with
  | error message =>
    rw [terms] at same
    cases same
  | ok results =>
    rw [terms] at same
    cases same
    rfl

theorem exists_evaluate_iff
    (read : ∃ tree, parseCondition env.tables rule.names rule.condition = .ok tree) :
    (∃ result, evaluate env rule event = .ok result) ↔
      ∃ results, termResults env rule event = .ok results := by
  obtain ⟨tree, read⟩ := read
  unfold evaluate
  cases returned : termResults env rule event with
  | error message => simp
  | ok results =>
    simp only [names_of_termResults returned, read]
    exact iff_of_true ⟨_, rfl⟩ ⟨_, rfl⟩

/-- **An evaluation of any event** ends with a result exactly when no numeric comparison meets
an integer that is no float, and no textual one a value without a text. -/
theorem exists_evaluate_iff_of_normalizeRule {content : Dict}
    (accepted : normalizeRule env.py env.tables content = .ok rule) (event : Event) :
    (∃ result, evaluate env rule event = .ok result) ↔
      ¬(rule.MeetsTooLarge env event ∨ rule.MeetsUnwritable event) := by
  have printed := eachTerm_printable.of_normalizeRule accepted
  rw [exists_evaluate_iff (of_normalizeRule accepted).2, exists_termResults_iff]
  constructor
  · rintro all (⟨selection, listed, term, inside, met⟩ | ⟨selection, listed, term, inside, met⟩)
    · exact (exists_evaluateTerm_iff (printed selection listed term inside)).mp
        (all selection listed term inside) (.inl met)
    · exact (exists_evaluateTerm_iff (printed selection listed term inside)).mp
        (all selection listed term inside) (.inr met)
  · intro none_met selection listed term inside
    refine (exists_evaluateTerm_iff (printed selection listed term inside)).mpr ?_
    rintro (met | met)
    · exact none_met (.inl ⟨selection, listed, term, inside, met⟩)
    · exact none_met (.inr ⟨selection, listed, term, inside, met⟩)

/-- **An evaluation returns unless a comparison overflows.** For every accepted content and
payload, the evaluation ends with a result exactly when no numeric comparison meets an integer
that is no float. -/
theorem evaluation_returns_iff {content payload : Dict}
    (accepted : normalizeRule env.py env.tables content = .ok rule)
    (built : syntheticEvent env.py payload = .ok event) :
    (∃ result, evaluate env rule event = .ok result) ↔ ¬rule.MeetsTooLarge env event := by
  rw [exists_evaluate_iff_of_normalizeRule accepted, or_iff_left]
  rintro ⟨selection, listed, term, inside, -, -, expected, another, value, same, long⟩
  obtain ⟨actual, field, short⟩ := of_syntheticEvent built term.field
  cases same.symm.trans field
  rw [short] at long
  cases long

end Evaluations

/-! ## Two runs -/

/-- A rule that compares the confidence of a threat with a number. -/
def confidenceRule (bound : Int) : Dict :=
  [("detection", .obj
    [("sure", .obj [("threat.confidence|gt", .int bound)]), ("condition", .str "sure")])]

theorem confidence_compared :
    ∃ rule event, normalizeRule asciiRuntime.py asciiRuntime.tables (confidenceRule 50) =
        .ok rule ∧
      syntheticEvent asciiRuntime.py [("threat.confidence", .int 80)] = .ok event ∧
      (∃ result, evaluate asciiRuntime rule event = .ok result) ∧
      ¬rule.MeetsTooLarge asciiRuntime event := by
  obtain ⟨rule, accepted⟩ := exists_of_toBool (x := normalizeRule asciiRuntime.py
    asciiRuntime.tables (confidenceRule 50)) (by decide +kernel)
  obtain ⟨event, built⟩ := exists_of_toBool (x := syntheticEvent asciiRuntime.py
    [("threat.confidence", .int 80)]) (by decide +kernel)
  have returned := exists_of_toBool (x := evaluateContent asciiRuntime (confidenceRule 50)
    [("threat.confidence", .int 80)]) (by decide +kernel)
  rw [evaluateContent_eq accepted built] at returned
  exact ⟨rule, event, accepted, built, returned,
    (evaluation_returns_iff accepted built).mp returned⟩

theorem utf8ByteSize_ofList_le (letters : List Char) :
    (String.ofList letters).utf8ByteSize ≤ 4 * letters.length := by
  induction letters with
  | nil => exact Nat.le_refl 0
  | cons letter rest ih =>
    have size := letter.utf8Size_le_four
    rw [String.ofList_cons, String.utf8ByteSize_append, String.utf8ByteSize_singleton,
      List.length_cons]
    omega

theorem utf8ByteSize_repr_le {number digits : Nat} (positive : 0 < digits)
    (short : number < 10 ^ digits) : number.repr.utf8ByteSize ≤ 4 * digits := by
  rw [Nat.repr_eq_ofList_toDigits]
  have most := (Nat.length_toDigits_le_iff (b := 10) (by decide) positive).mpr short
  have size := utf8ByteSize_ofList_le (Nat.toDigits 10 number)
  omega

/-- A number is a payload while its digits are few. -/
theorem exists_syntheticEvent {number digits : Nat} (positive : 0 < digits) (few : digits ≤ 4300)
    (short : number < 10 ^ digits) : ∃ event,
      syntheticEvent asciiRuntime.py [("threat.confidence", .int number)] = .ok event := by
  have printed : printable (.obj [("threat.confidence", .int number)]) = true := by
    have limit : number < digitLimit :=
      short.trans_le (Nat.pow_le_pow_right (by decide) few)
    simpa [printable, printableFields] using limit
  have size := utf8ByteSize_repr_le positive short
  have key : asciiStringSize "threat.confidence" = 19 := by decide +kernel
  have small : ¬65536 < dumpedSize asciiRuntime.py
      (.obj [("threat.confidence", .int number)]) := by
    simp only [dumpedSize, dumpedFields, List.isEmpty_cons, key]
    change ¬65536 < 19 + 2 + number.repr.utf8ByteSize + 2 + 0
    omega
  unfold syntheticEvent
  rw [printed, if_neg (by decide), if_neg small, if_neg (by simp),
    if_neg (by simp [nestedWithin, fieldsWithin])]
  exact ⟨_, rfl⟩

/-- A confidence of `10 ** 400` ends the evaluation with an exception. -/
theorem huge_confidence_raises :
    ¬ ∀ (env : DetectionRuntime) (content payload : Dict) (rule : NormalizedRule)
      (event : Event),
      normalizeRule env.py env.tables content = .ok rule →
      syntheticEvent env.py payload = .ok event →
      ∃ result, evaluate env rule event = .ok result := by
  intro returns
  obtain ⟨rule, accepted⟩ := exists_of_toBool (x := normalizeRule asciiRuntime.py
    asciiRuntime.tables (confidenceRule 50)) (by decide +kernel)
  obtain ⟨event, built⟩ := @exists_syntheticEvent (10 ^ 400) 401 (by decide) (by decide)
    (Nat.pow_lt_pow_right (by decide) (by decide))
  obtain ⟨result, returned⟩ := returns _ _ _ rule event accepted built
  -- The event is spelled out, so that its text is not written a second time.
  obtain rfl : event = _ := funext (apply_of_syntheticEvent built).2
  have raised : (normalizeRule asciiRuntime.py asciiRuntime.tables (confidenceRule 50) >>=
      fun rule => evaluate asciiRuntime rule fun field =>
        if ALLOWED_FIELDS.contains field then
          .json (payloadValue [("threat.confidence", .int (10 ^ 400 : Nat))] field)
        else .none).toBool = false := by decide +kernel
  have bound (next : NormalizedRule → Except String Evaluation) : (normalizeRule
      asciiRuntime.py asciiRuntime.tables (confidenceRule 50) >>= next) = next rule := by
    rw [accepted]
    rfl
  simp only [bound, returned] at raised
  cases raised

end ThreatScope.Detection
