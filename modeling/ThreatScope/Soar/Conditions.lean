import ThreatScope.Library.Json

/-!
# Playbook conditions

`soar/conditions.py`: a condition is a JSON tree of `all`, `any`, `not` and
comparisons of values and references. Evaluation is bounded twice, by the depth
of the tree and by a budget of comparisons that is threaded through it.

The recursion is on the levels that remain below the bound, so a tree that is
too deep is refused where the source refuses it.
-/

set_option autoImplicit false

namespace ThreatScope.Soar

open Library

/-- `ConditionResult`. -/
structure ConditionResult where
  matched : Bool
  explanation : String
  comparisons : Nat

/-- `OPERATORS`. -/
inductive Operator where
  | equals
  | notEquals
  | contains
  | startsWith
  | endsWith
  | isIn
  | notIn
  | greaterThan
  | greaterThanOrEqual
  | lessThan
  | lessThanOrEqual
  | exists_
  | notExists
  | isTrue
  | isFalse
  | all
  | any
  | not
deriving DecidableEq

/-- The operator a text names. -/
def Operator.ofText? : String → Option Operator
  | "equals" => some .equals
  | "not_equals" => some .notEquals
  | "contains" => some .contains
  | "starts_with" => some .startsWith
  | "ends_with" => some .endsWith
  | "in" => some .isIn
  | "not_in" => some .notIn
  | "greater_than" => some .greaterThan
  | "greater_than_or_equal" => some .greaterThanOrEqual
  | "less_than" => some .lessThan
  | "less_than_or_equal" => some .lessThanOrEqual
  | "exists" => some .exists_
  | "not_exists" => some .notExists
  | "is_true" => some .isTrue
  | "is_false" => some .isFalse
  | "all" => some .all
  | "any" => some .any
  | "not" => some .not
  | _ => none

def allowedRoots : List String :=
  ["trigger", "execution", "playbook", "steps", "analyst_input", "constants"]

def maxDepth : Nat := 8

def maxComparisons : Nat := 100

/-- The parts of a text between `${` and `}`. -/
def referenceParts (text : String) : List String :=
  (Text.splitChars '.' ((text.toList.drop 2).dropLast)).map String.ofList

/-- A part a reference may not have. -/
def hiddenPart (part : String) : Bool :=
  part == "" || Text.startsWith part "_" || Text.contains part "__"

/-- Follow the parts of a reference through dictionaries, `none` for `MISSING`. -/
def followReference : List String → Json → Option Json
  | [], current => some current
  | part :: rest, .obj fields =>
    match Dict.find? fields part with
    | some next => followReference rest next
    | none => none
  | _ :: _, _ => none

/-- `resolve_reference`, `none` for `MISSING`. -/
def resolveReference (value : Json) (context : Dict) : Option Json :=
  match value with
  | .str text =>
    if Text.startsWith text "$\x7b" && Text.endsWith text "\x7d" then
      let parts := referenceParts text
      if !allowedRoots.contains (parts.headD "") || parts.any hiddenPart then none
      else followReference parts (.obj context)
    else some value
  | _ => some value

def validateReference (value : Json) : Bool :=
  match value with
  | .str text =>
    if !Text.startsWith text "$\x7b" then true
    else if !Text.endsWith text "\x7d" then false
    else
      let parts := referenceParts text
      allowedRoots.contains (parts.headD "") &&
        parts.all fun part => !hiddenPart part && part.length ≤ 100
  | _ => true

/-- `str(value).lower()` of a truth value. -/
def lowerBool (value : Bool) : String := if value then "true" else "false"

/-- `str(value)` of a truth value. -/
def titleBool (value : Bool) : String := if value then "True" else "False"

/-- A number that is not a truth value. -/
def orderedNumber? : Json → Option Rat
  | .int value => some value
  | .float value => some value
  | _ => none

/-- An ordered comparison, false unless both sides are numbers. -/
def compareNumbers (holds : Rat → Rat → Bool) (left right : Json) : Bool :=
  match orderedNumber? left, orderedNumber? right with
  | some first, some second => holds first second
  | _, _ => false

/-- `equals` before its negation. -/
def equalValues (py : Interpreter) (caseSensitive : Bool) (left right : Json) : Bool :=
  match left, right with
  | .str first, .str second =>
    if caseSensitive then first == second
    else py.casefold first == py.casefold second
  | _, _ => Json.strictEq left right

/-- `contains`. -/
def containsValue (py : Interpreter) (caseSensitive : Bool) (left right : Json) : Bool :=
  match left, right with
  | .str first, .str second =>
    if caseSensitive then Text.contains first second
    else Text.contains (py.casefold first) (py.casefold second)
  | .arr items, _ => items.any fun item => Json.strictEq item right
  | _, _ => false

/-- `starts_with` and `ends_with`. -/
def compareAffix (py : Interpreter) (holds : String → String → Bool) (caseSensitive : Bool)
    (left right : Json) : Bool :=
  match left, right with
  | .str first, .str second =>
    if caseSensitive then holds first second
    else holds (py.casefold first) (py.casefold second)
  | _, _ => false

/-- The comparison operators on two values that are present. -/
def compareValues (py : Interpreter) (operator : Operator) (caseSensitive : Bool)
    (left right : Json) : Bool :=
  match operator with
  | .equals => equalValues py caseSensitive left right
  | .notEquals => !equalValues py caseSensitive left right
  | .contains => containsValue py caseSensitive left right
  | .startsWith => compareAffix py Text.startsWith caseSensitive left right
  | .endsWith => compareAffix py Text.endsWith caseSensitive left right
  | .isIn => right.items.any fun item => Json.strictEq left item
  | .notIn => !right.items.any fun item => Json.strictEq left item
  | .greaterThan => compareNumbers (fun first second => second < first) left right
  | .greaterThanOrEqual => compareNumbers (fun first second => second ≤ first) left right
  | .lessThan => compareNumbers (fun first second => first < second) left right
  | .lessThanOrEqual => compareNumbers (fun first second => first ≤ second) left right
  | _ => false

/-- The outcome of a comparison; `none` stands for a missing value. -/
def compareOperands (py : Interpreter) (operator : Operator) (caseSensitive : Bool)
    (left right : Option Json) : Bool :=
  match operator with
  | .exists_ => match left with
      | some .null => false
      | some _ => true
      | none => false
  | .notExists => match left with
      | some .null => true
      | some _ => false
      | none => true
  | .isTrue => match left with
      | some (.bool value) => value
      | _ => false
  | .isFalse => match left with
      | some (.bool value) => !value
      | _ => false
  | _ => match left, right with
      | some first, some second => compareValues py operator caseSensitive first second
      | _, _ => false

/-- The fields and the operator of a condition, `none` for a value that is not a
condition; looking up an operator that is a list or a dictionary raises. -/
def conditionOperator (condition : Json) : Except String (Option (Dict × String × Operator)) :=
  match condition with
  | .obj fields =>
    match Dict.get fields "operator" with
    | .str text => .ok ((Operator.ofText? text).map fun operator => (fields, text, operator))
    | .arr _ => .error "unhashable type: 'list'"
    | .obj _ => .error "unhashable type: 'dict'"
    | _ => .ok none
  | _ => .ok none

/-- Evaluate conditions one after the other on one budget. -/
def evaluateEach (one : Json → Nat → Except String (ConditionResult × Nat)) :
    List Json → Nat → Except String (List ConditionResult × Nat)
  | [], budget => .ok ([], budget)
  | item :: rest, budget =>
    match one item budget with
    | .error message => .error message
    | .ok (result, budget) =>
      match evaluateEach one rest budget with
      | .error message => .error message
      | .ok (results, budget) => .ok (result :: results, budget)

/-- A comparison, with the budget it leaves. -/
def evaluateComparison (py : Interpreter) (fields : Dict) (text : String)
    (operator : Operator) (context : Dict) : ConditionResult :=
  let left := resolveReference (Dict.get fields "left") context
  let right := resolveReference (Dict.get fields "right") context
  let caseSensitive := ((Dict.find? fields "case_sensitive").getD (.bool true)).truthy
  let matched := compareOperands py operator caseSensitive left right
  let side := fun value : Option Json => match value with
    | some value => value.typeName
    | none => "missing"
  ⟨matched, text ++ "(" ++ side left ++ ", " ++ side right ++ ") => " ++ lowerBool matched, 1⟩

/-- `evaluate` with the levels and the comparisons that remain. -/
def evaluateWithin (py : Interpreter) (context : Dict) :
    Nat → Json → Nat → Except String (ConditionResult × Nat)
  | 0, _, _ => .error "Condition nesting exceeds maximum depth 8"
  | levels + 1, condition, budget =>
    if budget = 0 then .error "Condition comparison limit exceeded"
    else match conditionOperator condition with
      | .error message => .error message
      | .ok none => .error "Unsupported condition operator"
      | .ok (some (fields, text, operator)) =>
        if operator = .all ∨ operator = .any then
          match Dict.get fields "conditions" with
          | .arr items =>
            if 1 ≤ items.length ∧ items.length ≤ 20 then
              match evaluateEach (evaluateWithin py context levels) items budget with
              | .error message => .error message
              | .ok (results, budget) =>
                let matched := if operator = .all then results.all ConditionResult.matched
                  else results.any ConditionResult.matched
                let shown := ", ".intercalate
                  (results.map fun result => lowerBool result.matched)
                .ok (⟨matched, text ++ "(" ++ shown ++ ") => " ++ lowerBool matched,
                  (results.map ConditionResult.comparisons).sum⟩, budget)
            else .error (text ++ " requires 1 to 20 conditions")
          | _ => .error (text ++ " requires 1 to 20 conditions")
        else if operator = .not then
          match evaluateWithin py context levels (Dict.get fields "condition") budget with
          | .error message => .error message
          | .ok (result, budget) =>
            .ok (⟨!result.matched, "not(" ++ titleBool result.matched ++ ") => " ++
              titleBool !result.matched, result.comparisons⟩, budget)
        else .ok (evaluateComparison py fields text operator context, budget - 1)

def evaluate (py : Interpreter) (condition : Json) (context : Dict) :
    Except String ConditionResult :=
  match evaluateWithin py context (maxDepth + 1) condition maxComparisons with
  | .error message => .error message
  | .ok (result, _) => .ok result

end ThreatScope.Soar
