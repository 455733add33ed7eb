import ThreatScope.AccessControl.Accounts
import ThreatScope.Detection.Rules
import ThreatScope.Library.Addresses

/-!
# Evaluating a rule on an event

`_match_value` and `evaluate` of `detection_engineering/evaluator.py`, and the events of
`execution_service.synthetic_event`. The operators convert what they are given: to text, to a
float, to an address or a network. Where a conversion raises what its operator does not catch,
the evaluation ends with that exception.

What is outside the program is a `DetectionRuntime`: the Unicode database, the texts of
floats and dates, and the reading of floats, addresses and networks.
-/

set_option autoImplicit false

namespace ThreatScope.Detection

open Library AccessControl

/-- A float. -/
inductive FloatValue where
  | finite (value : Rat)
  | infinite (negative : Bool)
  | nan

/-- `left < right`. -/
def FloatValue.lt : FloatValue → FloatValue → Bool
  | .finite left, .finite right => left < right
  | .finite _, .infinite negative => !negative
  | .infinite negative, .finite _ => negative
  | .infinite left, .infinite right => left && !right
  | _, _ => false

/-- `left == right`. -/
def FloatValue.eq : FloatValue → FloatValue → Bool
  | .finite left, .finite right => left == right
  | .infinite left, .infinite right => left == right
  | _, _ => false

/-- What the evaluation uses of the Python runtime. -/
structure DetectionRuntime where
  py : Interpreter
  tables : UnicodeTables
  /-- `float(text)`, none when it raises a `ValueError`. -/
  parseFloat : String → Option FloatValue
  /-- `ipaddress.ip_address(text)`, none when it raises. -/
  ipAddress : String → Option IpAddress
  /-- `ipaddress.ip_network(text, strict=False)`, none when it raises. -/
  ipNetwork : String → Option IpNetwork
  /-- `str(moment)`. -/
  dateText : Instant → String

/-- The value of a field of an event. -/
inductive Value where
  | json (value : Json)
  | datetime (moment : Instant)

def Value.none : Value := .json .null

/-- `value is None`. -/
def Value.isNone : Value → Bool
  | .json .null => true
  | _ => false

/-- An event as its `get`. -/
abbrev Event : Type := String → Value

/-! ## Conversions -/

/-- The integers from here on round to `2 ** 1024`, which is no float. -/
def floatLimit : Nat := 2 ^ 1024 - 2 ^ 970

/-- The nearest float of an integer below the limit: 53 bits, a tie goes to the even one. -/
def roundToFloat (value : Int) : Rat :=
  let size := value.natAbs
  let shift := Nat.log2 size - 52
  let quotient := size / 2 ^ shift
  let rest := size % 2 ^ shift
  let up := 2 ^ shift < 2 * rest ∨ (2 ^ shift = 2 * rest ∧ quotient % 2 = 1)
  let rounded := (if up then quotient + 1 else quotient) * 2 ^ shift
  if value < 0 then -(rounded : Rat) else rounded

/-- What `float(value)` ends with. -/
inductive FloatResult where
  | value (value : FloatValue)
  /-- A `TypeError` or a `ValueError`. -/
  | refused
  /-- An `OverflowError`. -/
  | overflow

variable (env : DetectionRuntime)

/-- `float(value)`. -/
def floatOf : Json → FloatResult
  | .bool value => .value (.finite (if value then 1 else 0))
  | .int value =>
    if value.natAbs < floatLimit then .value (.finite (roundToFloat value)) else .overflow
  | .float value => .value (.finite value)
  | .str text =>
    match env.parseFloat text with
    | some value => .value value
    | none => .refused
  | _ => .refused

/-- `float(value)` for the value of a field. -/
def Value.float : Value → FloatResult
  | .json value => floatOf env value
  | .datetime _ => .refused

/-- `str(value)` for the value of a field. -/
def Value.text : Value → Except String String
  | .json value => textOf env.py value
  | .datetime moment => .ok (env.dateText moment)

/-- `value == other`. -/
def Value.equals (value : Value) (other : Json) : Bool :=
  match value with
  | .json value => Json.pyEq value other
  | .datetime _ => false

/-! ## Wildcards -/

/-- A part of an `fnmatch` pattern. -/
inductive Glob where
  | star
  | any
  | char (c : Char)
  | set (negated : Bool) (ranges : List (Char × Char))

/-- The characters of a set: `a-z` is a range, any other character stands for itself. -/
def globRanges : List Char → List (Char × Char)
  | low :: '-' :: high :: rest => (low, high) :: globRanges rest
  | c :: rest => (c, c) :: globRanges rest
  | [] => []

/-- What follows an opening bracket: the characters of the set, and the text from its end on.
A bracket right after the start belongs to the set. -/
def globSet (rest : List Char) : Bool × List Char × List Char :=
  let negated := rest.head? = some '!'
  let inside := if negated then rest.drop 1 else rest
  (negated, inside.take 1 ++ (inside.drop 1).takeWhile (· ≠ ']'),
    (inside.drop 1).dropWhile (· ≠ ']'))

theorem length_globSet_le (rest : List Char) : (globSet rest).2.2.length ≤ rest.length := by
  unfold globSet
  refine (List.dropWhile_sublist _).length_le.trans ?_
  rw [List.length_drop]
  split
  · rw [List.length_drop]
    omega
  · omega

/-- The parts of a pattern. A bracket without an end is a character. -/
def globParts : List Char → List Glob
  | [] => []
  | c :: rest =>
    if c = '*' then .star :: globParts rest
    else if c = '?' then .any :: globParts rest
    else if c = '[' ∧ (globSet rest).2.2 ≠ [] then
      .set (globSet rest).1 (globRanges (globSet rest).2.1) ::
        globParts ((globSet rest).2.2.drop 1)
    else .char c :: globParts rest
termination_by text => text.length
decreasing_by
  · exact Nat.lt_succ_self _
  · exact Nat.lt_succ_self _
  · have shorter := length_globSet_le rest
    simp only [List.length_drop, List.length_cons]
    omega
  · exact Nat.lt_succ_self _

/-- Whether a text is matched by the parts of a pattern. -/
def globMatches : List Glob → List Char → Bool
  | [], text => text.isEmpty
  | .star :: rest, text => text.tails.any (globMatches rest)
  | .any :: rest, _ :: text => globMatches rest text
  | .char c :: rest, d :: text => c == d && globMatches rest text
  | .set negated ranges :: rest, c :: text =>
    (ranges.any (fun range => range.1 ≤ c && c ≤ range.2) != negated) && globMatches rest text
  | _ :: _, [] => false

/-- `fnmatch.fnmatchcase(text, pattern)`. -/
def fnmatchcase (text pattern : String) : Bool :=
  globMatches (globParts pattern.toList) text.toList

/-! ## Terms and rules -/

/-- The comparison of a numeric operator. -/
def Operator.compare : Operator → FloatValue → FloatValue → Bool
  | .gt, left, right => right.lt left
  | .gte, left, right => right.lt left || left.eq right
  | .lt, left, right => left.lt right
  | .lte, left, right => left.lt right || left.eq right
  | _, _, _ => false

/-- The numeric branch of `_match_value`: the value of the field is converted first, and only
type and value errors are caught. -/
def matchNumber (operator : Operator) (actual : Value) (expected : Json) : Except String Bool :=
  match actual.float env with
  | .refused => .ok false
  | .overflow => .error "OverflowError"
  | .value left =>
    match floatOf env expected with
    | .refused => .ok false
    | .overflow => .error "OverflowError"
    | .value right => .ok (operator.compare left right)

/-- The textual branch of `_match_value`. -/
def matchText (operator : Operator) (actual : Value) (expected : Json) : Except String Bool :=
  match actual.text env, textOf env.py expected with
  | .ok actualText, .ok expectedText =>
    let a := env.py.casefold actualText
    let b := env.py.casefold expectedText
    .ok (match operator with
      | .exact => actualText == expectedText
      | .iexact => a == b
      | .contains => Text.contains a b
      | .startswith => Text.startsWith a b
      | .endswith => Text.endsWith a b
      | .wildcard => fnmatchcase a b
      | _ => false)
  | _, _ => .error "ValueError"

/-- The address branch of `_match_value`, which catches value errors. -/
def matchNetwork (actual : Value) (expected : Json) : Bool :=
  match actual.text env, textOf env.py expected with
  | .ok actualText, .ok expectedText =>
    match env.ipAddress actualText, env.ipNetwork expectedText with
    | some address, some network => network.contains address
    | _, _ => false
  | _, _ => false

def matchValue (actual : Value) (operator : Operator) (expected : Json) : Except String Bool :=
  if operator = .exists then .ok ((!actual.isNone) == expected.truthy)
  else if actual.isNone then .ok false
  else
    match operator with
    | .cidr => .ok (matchNetwork env actual expected)
    | .gt => matchNumber env .gt actual expected
    | .gte => matchNumber env .gte actual expected
    | .lt => matchNumber env .lt actual expected
    | .lte => matchNumber env .lte actual expected
    | .in => .ok ((asList expected).any actual.equals)
    | other => matchText env other actual expected

/-- The values that a term is checked against, one after the other. -/
def Term.values (term : Term) : List Json :=
  if term.operator = .in then [term.value] else asList term.value

/-- What `evaluate` makes of a term. -/
def evaluateTerm (event : Event) (term : Term) : Except String Bool :=
  if term.unsupported then .ok false
  else
    match term.values.mapM (matchValue env (event term.field) term.operator) with
    | .error message => .error message
    | .ok checks => .ok (if term.all then checks.all id else checks.any id)

/-- The results of the terms of each selection. -/
def termResults (rule : NormalizedRule) (event : Event) :
    Except String (List (String × List (Term × Bool))) :=
  rule.selections.mapM fun selection =>
    (selection.2.mapM fun term => (evaluateTerm env event term).map fun ok => (term, ok)).map
      fun results => (selection.1, results)

/-- `outcomes`. -/
def outcomesOf (results : List (String × List (Term × Bool))) : List (String × Bool) :=
  results.map fun selection => (selection.1, selection.2.all Prod.snd)

/-- `outcomes[name]`. -/
def outcomeAt (outcomes : List (String × Bool)) (name : String) : Bool :=
  ((outcomes.find? fun outcome => outcome.1 == name).map Prod.snd).getD false

/-- `matched`: the fields of the terms that hold, each once. -/
def matchedFields (event : Event) (results : List (String × List (Term × Bool))) :
    List (String × Value) :=
  (((results.flatMap Prod.snd).filter Prod.snd).map fun result => result.1.field).eraseDups.map
    fun field => (field, event field)

/-- What `evaluate` returns. -/
structure Evaluation where
  result : Bool
  matched : List (String × Value)
  selections : List String

def evaluate (rule : NormalizedRule) (event : Event) : Except String Evaluation :=
  match termResults env rule event with
  | .error message => .error message
  | .ok results =>
    let outcomes := outcomesOf results
    match parseCondition env.tables (outcomes.map Prod.fst) rule.condition with
    | .error message => .error message
    | .ok tree =>
      let result := tree.resolve (outcomeAt outcomes)
      .ok ⟨result, if result then matchedFields event results else [],
        ((outcomes.filter Prod.snd).map Prod.fst).insertionSort (· ≤ ·)⟩

/-! ## A runtime for ASCII texts -/

/-- An interpreter that knows ASCII, integers and truth values. -/
def asciiPython : Interpreter where
  foldTable := fun c => [c]
  parseInt := fun _ => none
  repr := fun value =>
    match value with
    | .int number => toString number
    | .bool true => "True"
    | .bool false => "False"
    | _ => "None"
  floatText := fun _ => "0.5"

/-- A runtime that reads no text as a float, an address or a network. -/
def asciiRuntime : DetectionRuntime where
  py := asciiPython
  tables := ⟨fun c => [c], fun _ => none, fun _ => false⟩
  parseFloat := fun _ => none
  ipAddress := fun _ => none
  ipNetwork := fun _ => none
  dateText := fun _ => ""

end ThreatScope.Detection
