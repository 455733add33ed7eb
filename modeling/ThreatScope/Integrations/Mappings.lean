import ThreatScope.Integrations.Records

/-!
# Declarative mappings

`integrations/mapping.py`. A mapping is a list of rules; each reads a value of the source by
a dotted path, changes it and writes it under a target. A mapping is validated every time it
is applied, and applying one may fail: a rule may be refused, a path may be prohibited, a
number or a date may not convert, and a rule of a wrong shape raises whatever Python raises.
-/

set_option autoImplicit false

namespace ThreatScope.Integrations

open Library AccessControl

/-- What `datetime.fromisoformat(text).astimezone(timezone.utc).isoformat()` does. -/
inductive NormalizedDatetime where
  | text (value : String)
  | invalid
  | crashed

/-- The Python runtime as mappings use it. -/
structure MappingRuntime where
  py : Interpreter
  /-- `text.upper()`. -/
  upper : String → String
  /-- Conversion of a date to UTC. -/
  normalizeDatetime : String → NormalizedDatetime

def allowedTransforms : List String :=
  ["direct", "constant", "default", "lowercase", "uppercase", "trim", "truncate", "concatenate",
    "list_join", "integer", "boolean", "iso_datetime", "severity_map", "enum_map", "conditional"]

/-- The expressions `validate_mapping` prohibits in the text of a rule. -/
def prohibitedExpressions : List String :=
  ["\x7b\x7b", "\x7b%", "javascript:", "python", "__", "os.environ", "eval(", "exec("]

/-! ## Reading -/

/-- `_path`. -/
def readPath (data : Json) (path : String) : Except Fault Json :=
  let parts := if path = "" then [] else Text.split '.' path
  if decide (8 < parts.length) || parts.any (fun part =>
      part == "" || Text.startsWith part "_" || Text.contains part "__") then
    refuse .mappingFailed "Mapping path is prohibited"
  else .ok (parts.foldl (fun value part =>
    match value with
    | .obj fields => Dict.get fields part
    | _ => .null) data)

/-- `_path(source, path)` for a path that need not be a text. -/
def readPathOf (data path : Json) : Except Fault Json :=
  match path with
  | .str text => readPath data text
  | other => if other.truthy then .error .crashed else .ok data

/-- `list(value)`, `none` when it raises. -/
def listOf : Json → Option (List Json)
  | .arr items => some items
  | .str text => some (text.toList.map fun c => .str (String.ofList [c]))
  | .obj fields => some (fields.map fun field => .str field.1)
  | _ => none

/-- `dict(value)` as far as text keys go, `none` when it raises. -/
def dictOf : Json → Option Dict
  | .obj fields => some fields
  | value => do
    let items ← listOf value
    items.foldlM (fun result item => do
      match ← listOf item with
      | [.str key, entry] => some (Dict.set result key entry)
      | [.arr _, _] | [.obj _, _] => none
      | [_, _] => some result
      | _ => none) []

/-! ## Validation -/

/-- The errors `validate_mapping` finds in one rule. -/
def validateRule (py : Interpreter) (index : Nat) (rule : Json) :
    Except Fault (List String) :=
  match rule with
  | .obj fields =>
    let target := Dict.get fields "target"
    let prohibited := prohibitedExpressions.any fun word =>
      Text.contains (py.casefold (py.repr rule)) word
    match (Dict.find? fields "transform").getD (.str "direct") with
    | .arr _ | .obj _ => .error .crashed
    | transform =>
      .ok ((if allowedTransforms.any fun name => transform.isStr name then []
          else ["Rule " ++ toString index ++ " uses an unsupported transform"]) ++
        (if target.str?.any fun text => !Text.contains text "__" then []
          else ["Rule " ++ toString index ++ " has an invalid target"]) ++
        (if prohibited then ["Rule " ++ toString index ++ " contains a prohibited expression"]
          else []))
  | _ => .error .crashed

/-- The errors of all rules, in order. -/
def validateRules (py : Interpreter) : Nat → List Json → Except Fault (List String)
  | _, [] => .ok []
  | index, rule :: rest => do
    let errors ← validateRule py index rule
    let others ← validateRules py (index + 1) rest
    .ok (errors ++ others)

/-- `validate_mapping`: the errors it returns, none for a valid mapping. -/
def validateMapping (py : Interpreter) (rules : Json) : Except Fault (List String) :=
  match rules with
  | .arr items =>
    if 100 < items.length then .ok ["Mapping must contain at most 100 declarative rules"]
    else do
      let errors ← validateRules py 0 items
      .ok (errors.take 20)
  | _ => .ok ["Mapping must contain at most 100 declarative rules"]

/-! ## Application -/

/-- What a transform does to the value a rule has read. -/
def transformValue (env : MappingRuntime) (source : Json) (fields : Dict) (value : Json) :
    String → Except Fault Json
  | "lowercase" => .ok (match value with
      | .str text => .str (env.py.casefold text)
      | other => other)
  | "uppercase" => .ok (match value with
      | .str text => .str (env.upper text)
      | other => other)
  | "trim" => .ok (match value with
      | .str text => .str (Text.strip text)
      | other => other)
  | "truncate" =>
    match value with
    | .str text =>
      match env.py.int ((Dict.find? fields "length").getD (.int 200)) with
      | some count => .ok (.str (Text.truncate (min (max count 0) 4000).toNat text))
      | none => .error .crashed
    | other => .ok other
  | "concatenate" =>
    match listOf ((Dict.find? fields "sources").getD (.arr [])) with
    | none => .error .crashed
    | some sources => do
      let parts ← (sources.take 10).mapM (readPathOf source)
      let separator := env.py.str ((Dict.find? fields "separator").getD (.str ""))
      .ok (.str (separator.intercalate
        (parts.map fun part => env.py.str (part.orElse (.str "")))))
  | "list_join" => .ok (match value with
      | .arr items =>
        let separator := env.py.str ((Dict.find? fields "separator").getD (.str ", "))
        .str (separator.intercalate
          ((items.take 100).map fun item => Text.truncate 200 (env.py.str item)))
      | other => other)
  | "integer" =>
    match env.py.int value with
    | some number => .ok (.int number)
    | none => refuse .mappingFailed "Integer conversion failed"
  | "boolean" => .ok (match value with
      | .bool flag => .bool flag
      | other => .bool (["1", "true", "yes"].contains
          (env.py.casefold (env.py.str other))))
  | "iso_datetime" =>
    match env.normalizeDatetime (env.py.str value) with
    | .text date => .ok (.str date)
    | .invalid => refuse .mappingFailed "Datetime normalization failed"
    | .crashed => .error .crashed
  | "severity_map" | "enum_map" =>
    match dictOf ((Dict.find? fields "map").getD (.obj [])) with
    | none => .error .crashed
    | some entries =>
      .ok ((Dict.find? entries (env.py.str value)).getD
        ((Dict.find? fields "default").getD value))
  | "conditional" =>
    match (Dict.find? fields "condition").getD (.obj []) with
    | .obj condition => do
      let actual ← readPath source
        (env.py.str ((Dict.find? condition "field").getD (.str "")))
      .ok (if Json.pyEq actual (Dict.get condition "equals") then Dict.get fields "then"
        else Dict.get fields "else")
    | _ => .error .crashed
  | _ => .ok value

/-- One rule of `apply_mapping`: the target and the value it writes. -/
def applyRule (env : MappingRuntime) (source : Json) (fields : Dict) :
    Except Fault (String × Json) := do
  let transform := env.py.str ((Dict.find? fields "transform").getD (.str "direct"))
  let read ← if transform = "constant" then .ok (Dict.get fields "value")
    else readPath source (env.py.str ((Dict.find? fields "source").getD (.str "")))
  let value := match read, Dict.find? fields "default" with
    | .null, some default => default
    | _, _ => read
  let changed ← transformValue env source fields value transform
  .ok (Text.truncate 100 (env.py.str (Dict.get fields "target")), changed)

/-- The rules applied in order to what the ones before have written. -/
def applyRules (env : MappingRuntime) (source : Json) (output : Dict) :
    List Json → Except Fault Dict
  | [] => .ok output
  | rule :: rest => do
    let (target, value) ← applyRule env source rule.fields
    applyRules env source (Dict.set output target value) rest

def applyMapping (env : MappingRuntime) (source rules : Json) : Except Fault Json := do
  match ← validateMapping env.py rules with
  | [] => do
    let output ← applyRules env source [] rules.items
    .ok (.obj output)
  | errors => refuse .mappingFailed ("; ".intercalate errors)

end ThreatScope.Integrations
