import ThreatScope.Detection.Evaluation

/-!
# Events

Where events come from: the payload of a test (`execution_service.synthetic_event`) and a
stored event of the monitor (`evaluator.normalize_soc_event`). A payload is bounded in its
size, its fields and its nesting, and its keys may be aliases.
-/

set_option autoImplicit false

namespace ThreatScope.Detection

open Library AccessControl

/-! ## Test payloads -/

/-- The bytes of a character in a JSON string that is kept in ASCII. -/
def asciiSize (c : Char) : Nat :=
  if c = '"' ∨ c = '\\' ∨ c = '\n' ∨ c = '\r' ∨ c = '\t' ∨ c.toNat = 8 ∨ c.toNat = 12 then 2
  else if c.toNat < 32 ∨ 127 ≤ c.toNat then if c.toNat < 0x10000 then 6 else 12
  else 1

/-- The bytes of a JSON string with its quotes. -/
def asciiStringSize (text : String) : Nat := (text.toList.map asciiSize).sum + 2

mutual

/-- The bytes of `json.dumps(value)`. -/
def dumpedSize (py : Interpreter) : Json → Nat
  | .null => 4
  | .bool value => if value then 4 else 5
  | .int value => (toString value).utf8ByteSize
  | .float value => (py.floatText value).utf8ByteSize
  | .str value => asciiStringSize value
  | .arr items => if items.isEmpty then 2 else dumpedItems py items
  | .obj fields => if fields.isEmpty then 2 else dumpedFields py fields

/-- The items of a list, each with the two bytes of a bracket or a separator. -/
def dumpedItems (py : Interpreter) : List Json → Nat
  | [] => 0
  | item :: rest => dumpedSize py item + 2 + dumpedItems py rest

/-- The fields of an object, each with its key, its colon and two bytes around it. -/
def dumpedFields (py : Interpreter) : List (String × Json) → Nat
  | [] => 0
  | (key, value) :: rest =>
    asciiStringSize key + 2 + dumpedSize py value + 2 + dumpedFields py rest

end

mutual

/-- `_validate_nested_depth`, for the levels that are left. -/
def nestedWithin : Nat → Json → Bool
  | levels, .arr items => 0 < levels && itemsWithin levels items
  | levels, .obj fields => 0 < levels && fieldsWithin levels fields
  | levels, _ => 0 < levels

def itemsWithin : Nat → List Json → Bool
  | _, [] => true
  | levels, item :: rest => nestedWithin (levels - 1) item && itemsWithin levels rest

def fieldsWithin : Nat → List (String × Json) → Bool
  | _, [] => true
  | levels, (_, value) :: rest => nestedWithin (levels - 1) value && fieldsWithin levels rest

end

/-- The value of a field in a payload: the last of those under a name of the field. -/
def payloadValue (payload : Dict) (field : String) : Json :=
  ((payload.reverse.find? fun entry => canonicalField entry.1 == field).map Prod.snd).getD .null

def syntheticEvent (py : Interpreter) (payload : Dict) : Except String Event :=
  if !printable (.obj payload) then .error "ValueError"
  else if 65536 < dumpedSize py (.obj payload) then .error "Test event exceeds 64 KiB"
  else if 64 < payload.length then .error "Test event exceeds 64 fields"
  else if !nestedWithin 7 (.obj payload) then
    .error "Test event exceeds maximum nesting depth of 6"
  else
    .ok fun field =>
      if ALLOWED_FIELDS.contains field then .json (payloadValue payload field) else .none

theorem apply_of_syntheticEvent {py : Interpreter} {payload : Dict} {event : Event}
    (built : syntheticEvent py payload = .ok event) :
    printable (.obj payload) = true ∧ ∀ field, event field =
      if ALLOWED_FIELDS.contains field then .json (payloadValue payload field) else .none := by
  unfold syntheticEvent at built
  split at built
  · cases built
  rename_i short
  split at built
  · cases built
  split at built
  · cases built
  split at built
  · cases built
  cases built
  exact ⟨by simpa using short, fun _ => rfl⟩

/-! ## Stored events -/

/-- A row of `soc_events`, with `normalized_json` as it is read, none when it cannot be. -/
structure SocEvent where
  eventTime : Instant
  eventType : String
  action : Option String
  outcome : Option String
  severity : String
  sourceIp : Option String
  destinationIp : Option String
  username : Option String
  httpMethod : Option String
  requestPath : Option String
  statusCode : Option Int
  message : Option String
  normalized : Option Json

section Stored

variable (py : Interpreter)

/-- `text(value, limit)` of `normalize_soc_event`. -/
def boundedText (limit : Nat) : Json → Except String Json
  | .null => .ok .null
  | value => (textOf py value).map fun text => .str (Text.truncate limit text)

/-- A column that may be missing. -/
def column : Option String → Json
  | some text => .str text
  | none => .null

/-- `extra.get(key) if isinstance(extra.get(key), dict) else {}`. -/
def nestedFields (extra : Dict) (key : String) : Dict := (Dict.get extra key).fields

/-- The fields of `normalize_soc_event` that are texts: each with its value and its bound. -/
def textFields (event : SocEvent) (extra : Dict) : List (String × Json × Nat) :=
  let host := nestedFields extra "host"
  let process := nestedFields extra "process"
  let file := nestedFields extra "file"
  [("event.category", .str event.eventType, 80), ("event.action", column event.action, 120),
    ("event.outcome", column event.outcome, 24), ("event.severity", .str event.severity, 16),
    ("event.message", column event.message, 4000), ("source.ip", column event.sourceIp, 64),
    ("source.domain", Dict.get extra "source_domain", 255),
    ("source.email", Dict.get extra "source_email", 320),
    ("destination.ip", column event.destinationIp, 64),
    ("destination.domain", Dict.get extra "destination_domain", 255),
    ("user.name", column event.username, 160), ("user.email", Dict.get extra "user_email", 320),
    ("host.name", (Dict.get host "name").orElse (Dict.get extra "hostname"), 255),
    ("process.name", Dict.get process "name", 500),
    ("process.command_line", Dict.get process "command_line", 4000),
    ("file.name", Dict.get file "name", 500), ("file.path", Dict.get file "path", 2000),
    ("file.sha256", Dict.get file "sha256", 64), ("file.sha1", Dict.get file "sha1", 40),
    ("file.md5", Dict.get file "md5", 32),
    ("url.full", (Dict.get extra "url").orElse (column event.requestPath), 2000),
    ("url.domain", Dict.get extra "url_domain", 255),
    ("http.method", column event.httpMethod, 16),
    ("network.protocol", Dict.get extra "protocol", 40),
    ("threat.indicator", Dict.get extra "threat_indicator", 2048)]

/-- The fields of `normalize_soc_event` that are kept as they are. -/
def plainFields (id : Nat) (event : SocEvent) (extra : Dict) : List (String × Value) :=
  [("event.id", .json (.int id)), ("event.module", .json (.str "soc")),
    ("event.timestamp", .datetime event.eventTime),
    ("source.port", .json (Dict.get extra "source_port")),
    ("destination.port", .json (Dict.get extra "destination_port")),
    ("http.status_code",
      .json (match event.statusCode with
        | some code => .int code
        | none => .null)),
    ("threat.confidence", .json (Dict.get extra "threat_confidence")),
    ("case.id", .json (Dict.get extra "case_id")),
    ("tags", .json (.arr (Dict.get extra "tags").items))]

/-- `normalize_soc_event`. A stored text that is no object has no `get`. -/
def normalizeSocEvent (id : Nat) (event : SocEvent) : Except String Event :=
  match event.normalized.getD (.obj []) with
  | .obj extra =>
    match (textFields event extra).mapM fun field =>
        (boundedText py field.2.2 field.2.1).map fun value => (field.1, Value.json value) with
    | .error message => .error message
    | .ok texts =>
      .ok fun name =>
        (((plainFields id event extra ++ texts).find? fun field => field.1 == name).map
          Prod.snd).getD .none
  | _ => .error "AttributeError"

end Stored

/-! ## Content and payload -/

/-- What `evaluate` ends with for a content and a payload. -/
def evaluateContent (env : DetectionRuntime) (content payload : Dict) :
    Except String Evaluation :=
  normalizeRule env.py env.tables content >>= fun rule =>
    syntheticEvent env.py payload >>= fun event => evaluate env rule event

theorem evaluateContent_eq {env : DetectionRuntime} {content payload : Dict}
    {rule : NormalizedRule} {event : Event}
    (accepted : normalizeRule env.py env.tables content = .ok rule)
    (built : syntheticEvent env.py payload = .ok event) :
    evaluateContent env content payload = evaluate env rule event := by
  unfold evaluateContent
  rw [accepted, built]
  rfl

end ThreatScope.Detection
