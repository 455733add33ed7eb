import ThreatScope.Detection.ConditionLanguage

/-!
# Detection rules

What `detection_engineering/evaluator.py` makes of the content of a rule. The key of a field
carries modifiers behind bars, of which the first selects the operator, and a field outside
the list of supported ones is kept as an unsupported term. `normalize_rule` bounds the number
of selections, fields and wildcards, and reads the condition.
-/

set_option autoImplicit false

namespace ThreatScope.Detection

open Library

/-! ## Fields and operators -/

/-- `ALLOWED_FIELDS`. -/
def ALLOWED_FIELDS : List String :=
  ["event.id", "event.module", "event.category", "event.action", "event.outcome",
    "event.severity", "event.timestamp", "event.message", "source.ip", "source.port",
    "source.domain", "source.email", "destination.ip", "destination.port", "destination.domain",
    "user.name", "user.email", "host.name", "process.name", "process.command_line", "file.name",
    "file.path", "file.sha256", "file.sha1", "file.md5", "url.full", "url.domain", "http.method",
    "http.status_code", "network.protocol", "threat.indicator", "threat.confidence", "case.id",
    "tags"]

def ALIASES : List (String × String) :=
  [("EventID", "event.id"), ("Category", "event.category"), ("EventType", "event.category"),
    ("Action", "event.action"), ("Outcome", "event.outcome"), ("Level", "event.severity"),
    ("Message", "event.message"), ("SourceIp", "source.ip"), ("DestinationIp", "destination.ip"),
    ("UserName", "user.name"), ("CommandLine", "process.command_line"), ("Image", "process.name"),
    ("FileName", "file.name"), ("TargetFilename", "file.path"), ("sha256", "file.sha256"),
    ("Url", "url.full"), ("Domain", "url.domain"), ("HttpMethod", "http.method"),
    ("StatusCode", "http.status_code")]

def canonicalField (name : String) : String :=
  ((ALIASES.find? fun entry => entry.1 == name).map Prod.snd).getD name

/-- An operator of a term. A term on an unsupported field keeps any text. -/
inductive Operator where
  | exact
  | iexact
  | contains
  | startswith
  | endswith
  | wildcard
  | «in»
  | gt
  | gte
  | lt
  | lte
  | exists
  | cidr
  | all
  | other (text : String)
deriving DecidableEq

/-- The operator with a name. -/
def Operator.ofText : String → Operator
  | "exact" => .exact
  | "iexact" => .iexact
  | "contains" => .contains
  | "startswith" => .startswith
  | "endswith" => .endswith
  | "wildcard" => .wildcard
  | "in" => .in
  | "gt" => .gt
  | "gte" => .gte
  | "lt" => .lt
  | "lte" => .lte
  | "exists" => .exists
  | "cidr" => .cidr
  | "all" => .all
  | text => .other text

/-- The name of an operator. -/
def Operator.text : Operator → String
  | .exact => "exact"
  | .iexact => "iexact"
  | .contains => "contains"
  | .startswith => "startswith"
  | .endswith => "endswith"
  | .wildcard => "wildcard"
  | .in => "in"
  | .gt => "gt"
  | .gte => "gte"
  | .lt => "lt"
  | .lte => "lte"
  | .exists => "exists"
  | .cidr => "cidr"
  | .all => "all"
  | .other text => text

/-- `op in OPERATORS or op == "all"`. -/
def Operator.accepted : Operator → Bool
  | .other _ => false
  | _ => true

/-- `_operator_from_key`: the field, the operator and the modifiers. -/
def operatorFromKey (key : String) : String × Operator × List String :=
  match Text.split '|' key with
  | [] => (canonicalField "", .iexact, [])
  | field :: modifiers =>
    (canonicalField field,
      match modifiers with
      | [] => .iexact
      | "re" :: _ => .other "unsupported"
      | modifier :: _ => .ofText modifier,
      modifiers)

/-! ## Texts of values -/

/-- `str(value)`. -/
def textOf (py : Interpreter) (value : Json) : Except String String :=
  if printable value then .ok (py.str value) else .error "ValueError"

/-! ## Normalized rules -/

/-- A term of a selection. -/
structure Term where
  field : String
  operator : Operator
  value : Json
  unsupported : Bool
  all : Bool

/-- A rule as `normalize_rule` returns it. -/
structure NormalizedRule where
  selections : List (String × List Term)
  condition : String

/-- The names of the selections. -/
def NormalizedRule.names (rule : NormalizedRule) : List String := rule.selections.map Prod.fst

/-- `value if isinstance(value, list) else [value]`. -/
def asList : Json → List Json
  | .arr items => items
  | value => [value]

section Normalization

variable (py : Interpreter) (tables : UnicodeTables)

/-- The asterisks and question marks in the texts of some values. -/
def countWildcards : List Json → Except String Nat
  | [] => .ok 0
  | value :: rest =>
    match textOf py value with
    | .error message => .error message
    | .ok text =>
      match countWildcards rest with
      | .error message => .error message
      | .ok count => .ok (text.toList.countP (fun c => c == '*' || c == '?') + count)

/-- The operator and the value of a field: those of an object, or the operator of the key. -/
def chosenOperator (operator : Operator) : Json → Except String (Operator × Json)
  | .obj fields =>
    match textOf py ((Dict.find? fields "operator").getD (.str "iexact")) with
    | .error message => .error message
    | .ok text => .ok (.ofText text, Dict.get fields "value")
  | value => .ok (operator, value)

/-- What `normalize_rule` makes of one field, with the wildcards counted so far. -/
def normalizeTerm (wildcardCount : Nat) (rawField : String) (rawValue : Json) :
    Except String (Term × Nat) :=
  let key := operatorFromKey rawField
  if !ALLOWED_FIELDS.contains key.1 then
    .ok (⟨key.1, key.2.1, rawValue, true, false⟩, wildcardCount)
  else
    match chosenOperator py key.2.1 rawValue with
    | .error message => .error message
    | .ok (operator, value) =>
      if !operator.accepted then .error ("Unsupported operator: " ++ operator.text)
      else
        match countWildcards py (asList value) with
        | .error message => .error message
        | .ok count =>
          if 20 < wildcardCount + count then .error "Wildcard limit exceeded"
          else
            .ok (⟨key.1, operator, value, false, key.2.2.contains "all"⟩,
              wildcardCount + count)

/-- The terms of a selection, with the fields and wildcards counted so far. -/
def normalizeTerms : Nat → Nat → Dict → Except String (List Term × Nat × Nat)
  | fieldCount, wildcardCount, [] => .ok ([], fieldCount, wildcardCount)
  | fieldCount, wildcardCount, (rawField, rawValue) :: rest =>
    if 128 < fieldCount + 1 then .error "Rule field limit exceeded"
    else
      match normalizeTerm py wildcardCount rawField rawValue with
      | .error message => .error message
      | .ok (term, counted) =>
        match normalizeTerms (fieldCount + 1) counted rest with
        | .error message => .error message
        | .ok (terms, counts) => .ok (term :: terms, counts)

/-- `[A-Za-z][A-Za-z0-9_-]{0,63}`. -/
def validName (name : String) : Bool :=
  match name.toList with
  | [] => false
  | first :: rest =>
    first.isAlpha && rest.length ≤ 63 && rest.all fun c => c.isAlphanum || c == '_' || c == '-'

/-- The loop over the selections. -/
def normalizeSelections : Nat → Nat → Dict → Except String (List (String × List Term))
  | _, _, [] => .ok []
  | fieldCount, wildcardCount, (name, selection) :: rest =>
    match selection with
    | .obj (first :: others) =>
      if !validName name then .error "Selections must be non-empty named objects"
      else
        match normalizeTerms py fieldCount wildcardCount (first :: others) with
        | .error message => .error message
        | .ok (terms, fieldCount, wildcardCount) =>
          match normalizeSelections fieldCount wildcardCount rest with
          | .error message => .error message
          | .ok selections => .ok ((name, terms) :: selections)
    | _ => .error "Selections must be non-empty named objects"

/-- `normalize_rule`. A detection that is no object has no `get`. -/
def normalizeRule (content : Dict) : Except String NormalizedRule :=
  match (Dict.get content "detection").orElse (.obj []) with
  | .obj detection =>
    match textOf py (((Dict.get detection "condition").orElse
        (Dict.get content "condition")).orElse (.str "")) with
    | .error message => .error message
    | .ok text =>
      match (Dict.get content "selections").orElse
          (.obj (detection.filter fun field => field.1 != "condition")) with
      | .obj selections =>
        if selections.isEmpty || 32 < selections.length then
          .error "Rule requires 1-32 selections"
        else
          match normalizeSelections py 0 0 selections with
          | .error message => .error message
          | .ok normalized =>
            let condition := Text.strip text
            if condition = "" ∨ 500 < condition.length then
              .error "Condition is required and bounded to 500 characters"
            else
              match parseCondition tables (normalized.map Prod.fst) condition with
              | .error message => .error message
              | .ok _ => .ok ⟨normalized, condition⟩
      | _ => .error "Rule requires 1-32 selections"
  | _ => .error "AttributeError"

end Normalization

/-! ## Accepted rules -/

section Accepted

variable {py : Interpreter} {tables : UnicodeTables} {holds : Term → Prop}

/-- What is true of every term that `normalize_rule` makes of a field. -/
def EachTerm (py : Interpreter) (holds : Term → Prop) : Prop :=
  ∀ counted rawField rawValue result,
    normalizeTerm py counted rawField rawValue = .ok result → holds result.1

theorem EachTerm.of_normalizeTerms (each : EachTerm py holds) {fields : Dict}
    {fieldCount wildcardCount : Nat} {result : List Term × Nat × Nat}
    (normalized : normalizeTerms py fieldCount wildcardCount fields = .ok result) :
    ∀ term ∈ result.1, holds term := by
  induction fields generalizing fieldCount wildcardCount result with
  | nil =>
    cases normalized
    exact fun _ inside => absurd inside List.not_mem_nil
  | cons field rest ih =>
    unfold normalizeTerms at normalized
    split at normalized
    · cases normalized
    · split at normalized
      · cases normalized
      · rename_i term counted first
        split at normalized
        · cases normalized
        · rename_i terms counts later
          cases normalized
          intro other inside
          rcases List.mem_cons.mp inside with rfl | behind
          · exact each _ _ _ _ first
          · exact ih later other behind

theorem EachTerm.of_normalizeSelections (each : EachTerm py holds) {selections : Dict}
    {fieldCount wildcardCount : Nat} {result : List (String × List Term)}
    (normalized : normalizeSelections py fieldCount wildcardCount selections = .ok result) :
    ∀ selection ∈ result, ∀ term ∈ selection.2, holds term := by
  induction selections generalizing fieldCount wildcardCount result with
  | nil =>
    cases normalized
    exact fun _ inside => absurd inside List.not_mem_nil
  | cons field rest ih =>
    unfold normalizeSelections at normalized
    split at normalized
    · split at normalized
      · cases normalized
      · split at normalized
        · cases normalized
        · rename_i terms fieldCount wildcardCount first
          split at normalized
          · cases normalized
          · rename_i selections later
            cases normalized
            intro selection inside
            rcases List.mem_cons.mp inside with rfl | behind
            · exact each.of_normalizeTerms first
            · exact ih later selection behind
    · cases normalized

theorem names_of_normalizeSelections {selections : Dict} {fieldCount wildcardCount : Nat}
    {result : List (String × List Term)}
    (normalized : normalizeSelections py fieldCount wildcardCount selections = .ok result) :
    result.map Prod.fst = selections.map Prod.fst ∧
      ∀ name ∈ result.map Prod.fst, validName name = true := by
  induction selections generalizing fieldCount wildcardCount result with
  | nil =>
    cases normalized
    exact ⟨rfl, fun _ inside => absurd inside List.not_mem_nil⟩
  | cons field rest ih =>
    unfold normalizeSelections at normalized
    split at normalized
    · split at normalized
      · cases normalized
      · rename_i valid
        split at normalized
        · cases normalized
        · split at normalized
          · cases normalized
          · rename_i selections later
            cases normalized
            obtain ⟨same, each⟩ := ih later
            refine ⟨congrArg (List.cons _) same, fun name inside => ?_⟩
            rcases List.mem_cons.mp inside with rfl | behind
            · simpa using valid
            · exact each name behind
    · cases normalized

/-- **An accepted rule**: its terms come from `normalize_rule`, and its condition is read. -/
theorem of_normalizeRule {content : Dict} {rule : NormalizedRule}
    (accepted : normalizeRule py tables content = .ok rule) :
    (∃ selections, normalizeSelections py 0 0 selections = .ok rule.selections) ∧
      ∃ tree, parseCondition tables rule.names rule.condition = .ok tree := by
  unfold normalizeRule at accepted
  split at accepted
  · split at accepted
    · cases accepted
    · split at accepted
      · split at accepted
        · cases accepted
        · split at accepted
          · cases accepted
          · rename_i normalized found
            simp only at accepted
            split at accepted
            · cases accepted
            · split at accepted
              · cases accepted
              · rename_i tree read
                cases accepted
                exact ⟨⟨_, found⟩, tree, read⟩
      · cases accepted
  · cases accepted

/-- An accepted rule keeps within the limits: from 1 to 32 selections with valid names, and a
stripped condition of 1 to 500 characters. -/
theorem limits_of_normalizeRule {content : Dict} {rule : NormalizedRule}
    (accepted : normalizeRule py tables content = .ok rule) :
    (rule.names ≠ [] ∧ rule.names.length ≤ 32 ∧ ∀ name ∈ rule.names, validName name = true) ∧
      rule.condition ≠ "" ∧ rule.condition.length ≤ 500 ∧
        Text.strip rule.condition = rule.condition := by
  unfold normalizeRule at accepted
  split at accepted
  · split at accepted
    · cases accepted
    · split at accepted
      · rename_i selections _
        split at accepted
        · cases accepted
        · rename_i counted
          split at accepted
          · cases accepted
          · rename_i normalized found
            simp only at accepted
            split at accepted
            · cases accepted
            · rename_i bounded
              split at accepted
              · cases accepted
              · cases accepted
                obtain ⟨same, valid⟩ := names_of_normalizeSelections found
                simp only [Bool.or_eq_true, List.isEmpty_iff, decide_eq_true_eq, not_or,
                  not_lt] at counted bounded
                refine ⟨⟨?_, ?_, valid⟩, bounded.1, bounded.2, Text.strip_strip _⟩
                · unfold NormalizedRule.names
                  rw [same]
                  exact fun none => counted.1 (List.map_eq_nil_iff.mp none)
                · unfold NormalizedRule.names
                  rw [same, List.length_map]
                  exact counted.2
      · cases accepted
  · cases accepted

/-- What is true of every term that is made is true of the terms of an accepted rule. -/
theorem EachTerm.of_normalizeRule (each : EachTerm py holds) {content : Dict}
    {rule : NormalizedRule} (accepted : normalizeRule py tables content = .ok rule) :
    ∀ selection ∈ rule.selections, ∀ term ∈ selection.2, holds term := by
  obtain ⟨⟨selections, normalized⟩, -⟩ := Detection.of_normalizeRule accepted
  exact each.of_normalizeSelections normalized

/-- The fields of the supported terms are the allowed ones, and an unsupported term has no
`all`. -/
theorem eachTerm_field : EachTerm py fun term =>
    (term.unsupported = false → term.field ∈ ALLOWED_FIELDS) ∧
      (term.unsupported = true → term.field ∉ ALLOWED_FIELDS ∧ term.all = false) := by
  rintro counted rawField rawValue result normalized
  unfold normalizeTerm at normalized
  simp only at normalized
  split at normalized
  · rename_i outside
    cases normalized
    exact ⟨fun wrong => (nomatch wrong), fun _ => ⟨by simpa using outside, rfl⟩⟩
  · rename_i inside
    split at normalized
    · cases normalized
    · split at normalized
      · cases normalized
      · split at normalized
        · cases normalized
        · split at normalized
          · cases normalized
          · cases normalized
            exact ⟨fun _ => by simpa using inside, fun wrong => (nomatch wrong)⟩

end Accepted

end ThreatScope.Detection
