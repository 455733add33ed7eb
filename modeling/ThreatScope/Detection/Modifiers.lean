import ThreatScope.Detection.Totality
import ThreatScope.Library.Separated

/-!
# Modifiers behind a field

`_operator_from_key` takes the operator of a key from its first modifier only, and
`normalize_rule` looks for `all` among all of them. So `field|m|all` requires every value, as
it says. But `all` is also accepted as an operator, and `_match_value` knows no such operator:
`field|all|m` and `field|all` hold on an empty list of values and on nothing else. With `in`
there is one comparison with the whole list, and `all` behind it changes nothing
(`modifiers_compose_iff`).
-/

set_option autoImplicit false

namespace ThreatScope.Detection

open Library AccessControl

/-! ## Keys -/

/-- The key of a field with modifiers. -/
def fieldKey (field : String) (modifiers : List String) : String :=
  (String.singleton '|').intercalate (field :: modifiers)

theorem allowed_plain {field : String} (listed : field ∈ ALLOWED_FIELDS) :
    '|' ∉ field.toList ∧ canonicalField field = field := by
  have each : ∀ field ∈ ALLOWED_FIELDS, '|' ∉ field.toList ∧ canonicalField field = field := by
    decide +kernel
  exact each field listed

theorem accepted_plain {operator : Operator} (known : operator.accepted = true) :
    '|' ∉ operator.text.toList ∧ Operator.ofText operator.text = operator ∧
      operator.text ≠ "re" := by
  cases operator with
  | other text => cases known
  | _ => exact ⟨by decide, rfl, by decide⟩

theorem text_eq_all_iff {operator : Operator} (known : operator.accepted = true) :
    operator.text = "all" ↔ operator = .all := by
  cases operator with
  | other text => cases known
  | all => exact iff_of_true rfl rfl
  | _ => exact iff_of_false (by decide) (nomatch ·)

/-- **What a key is read as**: the first modifier is the operator. -/
theorem operatorFromKey_fieldKey {field : String} (listed : field ∈ ALLOWED_FIELDS)
    {operator : Operator} (known : operator.accepted = true) {others : List String}
    (plain : ∀ modifier ∈ others, '|' ∉ modifier.toList) :
    operatorFromKey (fieldKey field (operator.text :: others)) =
      (field, operator, operator.text :: others) := by
  obtain ⟨noBar, canonical⟩ := allowed_plain listed
  obtain ⟨noBarToo, named, supported⟩ := accepted_plain known
  unfold operatorFromKey fieldKey
  rw [split_intercalate (List.cons_ne_nil _ _) ?_]
  · simp only [canonical, named]
  · intro part inside
    rcases List.mem_cons.mp inside with rfl | inside
    · exact noBar
    · rcases List.mem_cons.mp inside with rfl | inside
      · exact noBarToo
      · exact plain part inside

section Modifiers

variable {env : DetectionRuntime} {event : Event} {field : String} {operator : Operator}
  {values : List Json} {counted : Nat}

/-- **What a key with a list of values becomes**, within the limit on wildcards. -/
theorem normalizeTerm_fieldKey (listed : field ∈ ALLOWED_FIELDS) (known : operator.accepted = true)
    {others : List String} (plain : ∀ modifier ∈ others, '|' ∉ modifier.toList) {py : Interpreter}
    {count : Nat} (wildcards : countWildcards py values = .ok count) (few : counted + count ≤ 20) :
    normalizeTerm py counted (fieldKey field (operator.text :: others)) (.arr values) =
      .ok (⟨field, operator, .arr values, false, (operator.text :: others).contains "all"⟩,
        counted + count) := by
  unfold normalizeTerm
  simp only [operatorFromKey_fieldKey listed known plain, List.contains_iff_mem.mpr listed,
    Bool.not_true, Bool.false_eq_true, if_false, chosenOperator, known, asList, wildcards,
    if_neg (not_lt.mpr few)]

theorem wildcards_of_accepted (listed : field ∈ ALLOWED_FIELDS) (known : operator.accepted = true)
    {py : Interpreter} {made : Term × Nat}
    (accepted : normalizeTerm py counted (fieldKey field [operator.text]) (.arr values) =
      .ok made) :
    ∃ count, countWildcards py values = .ok count ∧ counted + count ≤ 20 := by
  unfold normalizeTerm at accepted
  simp only [operatorFromKey_fieldKey listed known fun _ inside => absurd inside List.not_mem_nil,
    List.contains_iff_mem.mpr listed, Bool.not_true, Bool.false_eq_true, if_false, chosenOperator,
    known, asList] at accepted
  split at accepted
  · cases accepted
  · rename_i count wildcards
    split at accepted
    · cases accepted
    · rename_i few
      exact ⟨count, wildcards, not_lt.mp few⟩

/-! ## What the modifiers mean -/

/-- How a value of a list is matched under an operator. `in` compares with a list, which here
has the one value. -/
def matchOne (env : DetectionRuntime) (actual : Value) (operator : Operator) (value : Json) :
    Except String Bool :=
  matchValue env actual operator (if operator = .in then .arr [value] else value)

/-- The field of an event matches a value under an operator. -/
def Matches (env : DetectionRuntime) (actual : Value) (operator : Operator) (value : Json) :
    Prop :=
  matchOne env actual operator value = .ok true

/-- The key is accepted for the values, and its term holds on the event exactly when something
is the case. -/
def Means (env : DetectionRuntime) (event : Event) (counted : Nat) (key : String)
    (values : List Json) (holds : Prop) : Prop :=
  ∃ made, normalizeTerm env.py counted key (.arr values) = .ok made ∧
    ∃ ok, evaluateTerm env event made.1 = .ok ok ∧ (ok = true ↔ holds)

/-- The modifiers of a field compose: `m` asks for one value that matches, and `all`, before or
behind it, for all of them. -/
def Composes (env : DetectionRuntime) (event : Event) (counted : Nat) (field : String)
    (operator : Operator) (values : List Json) : Prop :=
  Means env event counted (fieldKey field [operator.text]) values
      (∃ value ∈ values, Matches env (event field) operator value) ∧
    Means env event counted (fieldKey field [operator.text, "all"]) values
      (∀ value ∈ values, Matches env (event field) operator value) ∧
    Means env event counted (fieldKey field ["all", operator.text]) values
      (∀ value ∈ values, Matches env (event field) operator value) ∧
    Means env event counted (fieldKey field ["all"]) values
      (∀ value ∈ values, Matches env (event field) .iexact value)

/-- Every comparison of the values returns. -/
def Compared (env : DetectionRuntime) (actual : Value) (operator : Operator)
    (values : List Json) : Prop :=
  ∀ value ∈ values, ∃ ok, matchOne env actual operator value = .ok ok

theorem matchOne_all (actual : Value) (value : Json) :
    matchOne env actual .all value =
      (matchOne env actual .iexact value).map fun _ => false := by
  unfold matchOne matchValue
  simp only [reduceCtorEq, if_false]
  split
  · rfl
  · unfold matchText
    split
    · rfl
    · rfl

theorem not_matches_all (actual : Value) (value : Json) : ¬Matches env actual .all value := by
  unfold Matches
  rw [matchOne_all]
  cases matchOne env actual .iexact value with
  | error message => exact (nomatch ·)
  | ok result => exact (nomatch ·)

theorem compared_all_iff {actual : Value} :
    Compared env actual .all values ↔ Compared env actual .iexact values := by
  unfold Compared
  refine forall₂_congr fun value _ => ?_
  rw [matchOne_all]
  cases matchOne env actual .iexact value with
  | error message => simp [Except.map]
  | ok result => simp [Except.map]

/-- **A term with a list of values**: it is evaluated when every value is compared, and asks
for one value or for all of them. -/
theorem evaluateTerm_values (single : operator ≠ .in) (all : Bool) (holds : Prop) :
    (∃ ok, evaluateTerm env event ⟨field, operator, .arr values, false, all⟩ = .ok ok ∧
        (ok = true ↔ holds)) ↔
      Compared env (event field) operator values ∧
        ((if all then ∀ value ∈ values, Matches env (event field) operator value
          else ∃ value ∈ values, Matches env (event field) operator value) ↔ holds) := by
  have one : matchOne env (event field) operator =
      matchValue env (event field) operator := by
    funext value
    unfold matchOne
    rw [if_neg single]
  unfold evaluateTerm Term.values Compared Matches
  simp only [Bool.false_eq_true, if_false, if_neg single, asList, one]
  rw [← exists_mapM_eq_ok_iff]
  cases checked : values.mapM (matchValue env (event field) operator) with
  | error message => simp
  | ok checks =>
    have paired := mapM_eq_ok_iff.mp checked
    have every : checks.all id = true ↔
        ∀ value ∈ values, matchValue env (event field) operator value = .ok true := by
      clear checked
      induction paired with
      | nil => simp
      | cons same _ ih => simp [ih, same]
    have some : checks.any id = true ↔
        ∃ value ∈ values, matchValue env (event field) operator value = .ok true := by
      clear checked every
      induction paired with
      | nil => simp
      | cons same _ ih => simp [ih, same]
    cases all with
    | true => simp [every]
    | false => simp [some]

theorem evaluateTerm_in (all : Bool) (holds : Prop) :
    (∃ ok, evaluateTerm env event ⟨field, .in, .arr values, false, all⟩ = .ok ok ∧
        (ok = true ↔ holds)) ↔
      ((∃ value ∈ values, Matches env (event field) .in value) ↔ holds) := by
  have checks : evaluateTerm env event ⟨field, .in, .arr values, false, all⟩ =
      .ok (!(event field).isNone && values.any (event field).equals) := by
    unfold evaluateTerm Term.values matchValue
    cases (event field).isNone with
    | true => cases all with
      | true => rfl
      | false => rfl
    | false =>
      cases all with
      | true => simp [asList, bind, Except.bind, pure, Except.pure]
      | false => simp [asList, bind, Except.bind, pure, Except.pure]
  have some : (!(event field).isNone && values.any (event field).equals) = true ↔
      ∃ value ∈ values, Matches env (event field) .in value := by
    unfold Matches matchOne matchValue
    cases (event field).isNone with
    | true => simp
    | false => simp [asList]
  rw [checks]
  simp only [Except.ok.injEq, exists_eq_left', some]

theorem compared_in {actual : Value} : Compared env actual .in values := by
  intro value _
  unfold matchOne matchValue
  rw [if_neg (nomatch ·)]
  split
  · exact ⟨_, rfl⟩
  · exact ⟨_, rfl⟩

theorem means_iff (listed : field ∈ ALLOWED_FIELDS) (known : operator.accepted = true)
    {others : List String} (plain : ∀ modifier ∈ others, '|' ∉ modifier.toList) {count : Nat}
    (wildcards : countWildcards env.py values = .ok count) (few : counted + count ≤ 20)
    (holds : Prop) :
    Means env event counted (fieldKey field (operator.text :: others)) values holds ↔
      ∃ ok, evaluateTerm env event ⟨field, operator, .arr values, false,
          (operator.text :: others).contains "all"⟩ = .ok ok ∧ (ok = true ↔ holds) := by
  unfold Means
  rw [normalizeTerm_fieldKey listed known plain wildcards few]
  simp only [Except.ok.injEq, exists_eq_left']

/-- The key starts with `all`: it holds on no value, so it means a demand on all values only
where there is none or the demand fails. -/
theorem means_all_iff (listed : field ∈ ALLOWED_FIELDS) {others : List String}
    (plain : ∀ modifier ∈ others, '|' ∉ modifier.toList) {count : Nat}
    (wildcards : countWildcards env.py values = .ok count) (few : counted + count ≤ 20)
    (demand : Json → Prop) :
    Means env event counted (fieldKey field ("all" :: others)) values
        (∀ value ∈ values, demand value) ↔
      Compared env (event field) .iexact values ∧
        (values = [] ∨ ∃ value ∈ values, ¬demand value) := by
  rw [← compared_all_iff]
  have key := @means_iff env event field .all values counted listed rfl others plain count
    wildcards few
  have another : Operator.all ≠ .in := (nomatch ·)
  rw [show Operator.all.text = "all" from rfl] at key
  rw [key, evaluateTerm_values another]
  simp only [List.contains_cons, beq_self_eq_true, Bool.true_or, if_true, not_matches_all]
  refine and_congr_right fun _ => ?_
  cases values with
  | nil => simp
  | cons value rest =>
    simp only [reduceCtorEq, false_or]
    constructor
    · intro same
      by_contra every
      push Not at every
      exact same.mpr every value List.mem_cons_self
    · rintro ⟨other, inside, fails⟩
      exact iff_of_false (fun none => none value List.mem_cons_self)
        fun every => fails (every other inside)

/-- When the modifiers of a field compose: the comparisons return, a value fails both under the
operator and under `iexact` unless there is none, and `in` matches all values or none. -/
structure ModifiersAgree (env : DetectionRuntime) (actual : Value) (operator : Operator)
    (values : List Json) : Prop where
  compared : Compared env actual operator values ∧ Compared env actual .iexact values
  fails : values = [] ∨ (∃ value ∈ values, ¬Matches env actual operator value) ∧
    ∃ value ∈ values, ¬Matches env actual .iexact value
  «in» : operator = .in → ((∃ value ∈ values, Matches env actual operator value) ↔
    ∀ value ∈ values, Matches env actual operator value)

/-- **Modifiers compose** exactly where the operator `all` makes no difference. For every
allowed field, operator, list of values that is accepted and event, the four keys mean what
they say exactly when every comparison returns, the list is empty or fails both demands on all
of its values, and under `in` all of them match or none does. -/
theorem modifiers_compose_iff (listed : field ∈ ALLOWED_FIELDS) (known : operator.accepted = true)
    (matching : operator ≠ .all) {made : Term × Nat}
    (accepted : normalizeTerm env.py counted (fieldKey field [operator.text])
      (.arr values) = .ok made) :
    Composes env event counted field operator values ↔
      ModifiersAgree env (event field) operator values := by
  obtain ⟨count, wildcards, few⟩ := wildcards_of_accepted listed known accepted
  have plainAll : ∀ modifier ∈ ["all"], '|' ∉ modifier.toList := by decide
  have plainToo : ∀ modifier ∈ [operator.text], '|' ∉ modifier.toList := by
    intro modifier inside
    rw [List.mem_singleton.mp inside]
    exact (accepted_plain known).1
  have plain : ∀ modifier ∈ ([] : List String), '|' ∉ modifier.toList := by decide
  have one : [operator.text].contains "all" = false := by
    rw [← Bool.not_eq_true, List.contains_iff_mem, List.mem_singleton]
    exact fun same => matching ((text_eq_all_iff known).mp same.symm)
  have both : [operator.text, "all"].contains "all" = true := by
    rw [List.contains_iff_mem]
    exact List.mem_cons_of_mem _ (List.mem_singleton.mpr rfl)
  have split : Composes env event counted field operator values ↔
      (Means env event counted (fieldKey field [operator.text]) values
          (∃ value ∈ values, Matches env (event field) operator value) ∧
        Means env event counted (fieldKey field [operator.text, "all"]) values
          (∀ value ∈ values, Matches env (event field) operator value)) ∧
        (Compared env (event field) .iexact values ∧
          (values = [] ∨ (∃ value ∈ values, ¬Matches env (event field) operator value) ∧
            ∃ value ∈ values, ¬Matches env (event field) .iexact value)) := by
    unfold Composes
    rw [means_all_iff listed plainToo wildcards few, means_all_iff listed plain wildcards few,
      or_and_left]
    constructor
    · rintro ⟨first, every, ⟨texts, fails⟩, -, failsToo⟩
      exact ⟨⟨first, every⟩, texts, fails, failsToo⟩
    · rintro ⟨⟨first, every⟩, texts, fails, failsToo⟩
      exact ⟨first, every, ⟨texts, fails⟩, texts, failsToo⟩
  rw [split, means_iff listed known plain wildcards few,
    means_iff listed known plainAll wildcards few, one, both]
  by_cases inside : operator = .in
  · subst inside
    rw [evaluateTerm_in, evaluateTerm_in]
    constructor
    · rintro ⟨⟨-, same⟩, texts, fails⟩
      exact ⟨⟨compared_in, texts⟩, fails, fun _ => same⟩
    · rintro ⟨⟨-, texts⟩, fails, same⟩
      exact ⟨⟨Iff.rfl, same rfl⟩, texts, fails⟩
  · rw [evaluateTerm_values inside, evaluateTerm_values inside]
    simp only [Bool.false_eq_true, if_false, if_true, and_true]
    constructor
    · rintro ⟨⟨compared, -⟩, texts, fails⟩
      exact ⟨⟨compared, texts⟩, fails, fun same => absurd same inside⟩
    · rintro ⟨⟨compared, texts⟩, fails, -⟩
      exact ⟨⟨compared, compared⟩, texts, fails⟩

end Modifiers

/-! ## Two events -/

theorem root_event : ∃ event, syntheticEvent asciiRuntime.py [("user.name", .str "root")] =
    .ok event ∧ event "user.name" = .json (.str "root") := by
  obtain ⟨event, built⟩ := exists_of_toBool (x := syntheticEvent asciiRuntime.py
    [("user.name", .str "root")]) (by decide +kernel)
  refine ⟨event, built, ?_⟩
  rw [(apply_of_syntheticEvent built).2, if_pos (by decide +kernel)]
  rfl

theorem root_or_admin_composes :
    ∃ event made, syntheticEvent asciiRuntime.py [("user.name", .str "root")] = .ok event ∧
      normalizeTerm asciiRuntime.py 0 (fieldKey "user.name" [Operator.contains.text])
        (.arr [.str "root", .str "admin"]) = .ok made ∧
      Composes asciiRuntime event 0 "user.name" .contains [.str "root", .str "admin"] := by
  obtain ⟨event, built, root⟩ := root_event
  obtain ⟨made, accepted⟩ := exists_of_toBool (x := normalizeTerm asciiRuntime.py 0
    (fieldKey "user.name" [Operator.contains.text]) (.arr [.str "root", .str "admin"]))
    (by decide +kernel)
  have returns : ∀ operator ∈ [Operator.contains, .iexact],
      ∀ value ∈ [Json.str "root", .str "admin"],
        (matchOne asciiRuntime (.json (.str "root")) operator value).toBool = true := by
    decide +kernel
  have differs : ∀ operator ∈ [Operator.contains, .iexact],
      (matchOne asciiRuntime (.json (.str "root")) operator (.str "admin")).toOption =
        some false := by decide +kernel
  have compared (operator : Operator) (inside : operator ∈ [Operator.contains, .iexact]) :
      Compared asciiRuntime (.json (.str "root")) operator [.str "root", .str "admin"] :=
    fun value listed => exists_of_toBool (returns operator inside value listed)
  have fails (operator : Operator) (inside : operator ∈ [Operator.contains, .iexact]) :
      ∃ value ∈ [Json.str "root", .str "admin"],
        ¬Matches asciiRuntime (.json (.str "root")) operator value := by
    refine ⟨.str "admin", List.mem_cons_of_mem _ List.mem_cons_self, fun same => ?_⟩
    have differs := differs operator inside
    rw [same] at differs
    cases differs
  refine ⟨event, made, built, accepted, (modifiers_compose_iff (by decide +kernel) rfl
    (by decide) accepted).mpr ?_⟩
  rw [root]
  exact
    { compared := ⟨compared _ (by decide), compared _ (by decide)⟩
      fails := .inr ⟨fails _ (by decide), fails _ (by decide)⟩
      «in» := fun same => nomatch same }

theorem all_before_contains_fails :
    ¬ ∀ (env : DetectionRuntime) (event : Event) (counted : Nat) (field : String)
      (operator : Operator) (values : List Json) (made : Term × Nat),
      field ∈ ALLOWED_FIELDS → operator.accepted = true → operator ≠ .all →
      normalizeTerm env.py counted (fieldKey field [operator.text]) (.arr values) =
        .ok made →
      Composes env event counted field operator values := by
  intro composes
  obtain ⟨event, built, root⟩ := root_event
  obtain ⟨made, accepted⟩ := exists_of_toBool (x := normalizeTerm asciiRuntime.py 0
    (fieldKey "user.name" [Operator.contains.text]) (.arr [.str "root"])) (by decide +kernel)
  obtain ⟨-, -, behind, -⟩ := composes asciiRuntime event 0 "user.name" .contains [.str "root"]
    made (by decide +kernel) rfl (by decide) accepted
  obtain ⟨count, wildcards, few⟩ := wildcards_of_accepted (by decide +kernel) rfl accepted
  obtain ⟨-, empty | ⟨value, inside, fails⟩⟩ :=
    (means_all_iff (by decide +kernel) (by decide) wildcards few _).mp behind
  · cases empty
  · rw [root, List.mem_singleton.mp inside] at fails
    have matched : (matchOne asciiRuntime (.json (.str "root")) .contains
        (.str "root")).toOption = some true := by decide +kernel
    unfold Matches at fails
    revert matched
    cases result : matchOne asciiRuntime (.json (.str "root")) .contains (.str "root") with
    | error message => exact (nomatch ·)
    | ok matched =>
      rintro ⟨⟩
      exact fails result

end ThreatScope.Detection
