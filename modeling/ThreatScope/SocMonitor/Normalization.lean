import ThreatScope.AccessControl.Accounts
import ThreatScope.Library.Json

/-!
# Redaction and normalization of log events

`soc_monitor/redaction.py`. A record is redacted by its keys, and a text by two patterns
that look for a secret after a word such as `password` and a separator. The patterns are
written here as scanners: at every place at most one of the words can match, since a word
ends where the letters end, so that there is nothing to try again.
-/

set_option autoImplicit false

namespace ThreatScope.SocMonitor

open Library

/-- What the regular expressions and the texts of Python take from tables. -/
structure TextRuntime where
  /-- `text.lower()`. -/
  lower : String → String
  /-- `\w`. -/
  isWord : Char → Bool
  /-- A letter of a pattern matches a character under `re.IGNORECASE`. -/
  sameLetter : Char → Char → Bool

variable (env : TextRuntime)

/-! ## The words of secrets -/

/-- `rules/sensitive_keys.json`, in the order of the second pattern. -/
def sensitiveKeys : List String :=
  ["password", "passwd", "pwd", "secret", "token", "access_token", "refresh_token", "api_key",
    "apikey", "authorization", "cookie", "session", "credential", "private_key", "client_secret"]

/-- The runs of letters and digits of a text, all else counting as a separator. -/
def keyParts (letters : List Char) : List (List Char) :=
  (letters.splitOnP fun c => !(('a' ≤ c && c ≤ 'z') || ('0' ≤ c && c ≤ '9'))).filter fun part =>
    !part.isEmpty

def isSensitiveKey (key : String) : Bool :=
  let parts := (keyParts (env.lower key).toList).map String.ofList
  sensitiveKeys.contains ("_".intercalate parts) || parts.any sensitiveKeys.contains

/-! ## The two patterns -/

/-- The rest of a text after a word, which is matched without regard to case. -/
def dropWord : List Char → List Char → Option (List Char)
  | [], text => some text
  | _ :: _, [] => none
  | letter :: word, c :: text =>
    if env.sameLetter letter c then dropWord word text else none

/-- `\b` between two characters, of which either may be missing. -/
def isBoundary (before after : Option Char) : Bool :=
  before.any env.isWord != after.any env.isWord

/-- `[A-Za-z0-9._~+/=-]` under `re.IGNORECASE`. -/
def isTokenChar (c : Char) : Bool :=
  c.isDigit || "._~+/=-".toList.contains c ||
    "abcdefghijklmnopqrstuvwxyz".toList.any fun letter => env.sameLetter letter c

/-- The scheme that begins here with a token after it, and the rest of the text. -/
def matchScheme (text : List Char) : Option (List Char × List Char) :=
  ["Bearer", "Basic"].findSome? fun word => do
    let rest ← dropWord env word.toList text
    let after := rest.dropWhile Text.isSpace
    guard (after.length < rest.length)
    let remaining := after.dropWhile (isTokenChar env)
    guard (remaining.length < after.length)
    return (text.take word.length, remaining)

/-- The rest of a text after a quoted or a bare value. -/
def dropValue : List Char → Option (List Char)
  | [] => none
  | c :: text =>
    let quoted := if c = '"' || c = '\'' then
        match text.dropWhile (· != c) with
        | [] => none
        | _ :: rest => some rest
      else none
    quoted.or
      (let bare := (c :: text).dropWhile fun d => !(Text.isSpace d || d == ',' || d == ';')
      if bare.length < text.length + 1 then some bare else none)

/-- The word that begins here with a separator and a value after it, and the rest of the
text. -/
def matchSecret (text : List Char) : Option (List Char × List Char) :=
  sensitiveKeys.findSome? fun word => do
    let rest ← dropWord env word.toList text
    guard (isBoundary env (text.take word.length).getLast? rest.head?)
    match rest.dropWhile Text.isSpace with
    | ':' :: value | '=' :: value =>
      let remaining ← dropValue (value.dropWhile Text.isSpace)
      return (text.take word.length, remaining)
    | _ => none

/-- `pattern.sub(..)`: from left to right, a match is replaced by its word and a mark. -/
def substitute (match? : List Char → Option (List Char × List Char)) :
    Nat → Option Char → List Char → List Char
  | 0, _, text => text
  | _ + 1, _, [] => []
  | fuel + 1, before, c :: text =>
    match (if isBoundary env before (some c) then match? (c :: text) else none) with
    | some (word, rest) =>
      let consumed := (c :: text).take (text.length + 1 - rest.length)
      word ++ "=[REDACTED]".toList ++ substitute match? fuel consumed.getLast? rest
    | none => c :: substitute match? fuel (some c) text

def redactText (value : String) : String :=
  let schemes := substitute env (matchScheme env) (value.length + 1) none value.toList
  String.ofList
    (substitute env (matchSecret env) (schemes.length + 1) none schemes)

/-- `redact_text(value, limit)`. -/
def redactTextWithin (limit : Nat) (value : String) : String :=
  let result := redactText env value
  if limit < result.length then Text.truncate limit result ++ "…" else result

/-! ## Records -/

mutual

def redact : Json → Json
  | .obj fields => .obj (redactFields fields)
  | .arr items => .arr (redactItems items)
  | .str text => .str (redactText env text)
  | value => value

/-- The items of a list. -/
def redactItems : List Json → List Json
  | [] => []
  | item :: rest => redact item :: redactItems rest

/-- The fields of a dictionary. -/
def redactFields : List (String × Json) → List (String × Json)
  | [] => []
  | (key, value) :: rest =>
    (key, if isSensitiveKey env key then .str "[REDACTED]" else redact value) ::
      redactFields rest

end

/-!
## Normalization of log events

`soc_monitor/normalization.py`: from the record of a log line to the columns of an event.
The record is redacted first, and everything else is read from what is left of it. The one
column that is made from the unparsed line is its preview.
-/

open AccessControl

/-- What a call of the standard library does: it returns, it raises one of the exceptions
that the caller catches there, or it raises another one. -/
inductive Attempt (α : Type) where
  | value (result : α)
  | invalid
  | raises

/-- The parts of Python that normalization takes from its library. -/
structure LogRuntime extends TextRuntime where
  /-- `text.upper()`. -/
  upper : String → String
  /-- `str(value)`. -/
  str : Json → String
  /-- `int(value)`, where a `ValueError` or a `TypeError` is caught. -/
  int : Json → Attempt Int
  /-- `str(ipaddress.ip_address(text))`. -/
  ipAddress : String → Option String
  /-- `text.isdigit()`. -/
  isDigits : String → Bool
  /-- `datetime.fromtimestamp(float(text), timezone.utc)`. -/
  fromTimestamp : String → Attempt Instant
  /-- `ensure_utc(datetime.fromisoformat(text))`. -/
  fromIsoFormat : String → Attempt Instant
  /-- `ensure_utc(datetime.strptime(text, format))`, in the year of an instant for the format
  without a year. -/
  strptime : String → String → Instant → Attempt Instant
  /-- `moment.isoformat()`. -/
  isoformat : Instant → String
  /-- `json.dumps(value, ensure_ascii=False, sort_keys=True, default=str)`. -/
  dumps : Json → String
  /-- `text.encode("utf-8")` does not raise, as it does for a lone surrogate. -/
  encodes : String → Bool
  /-- `hashlib.sha256(text.encode("utf-8")).hexdigest()`. -/
  sha256 : String → String

variable (env : LogRuntime)

/-! ## Times -/

/-- The first reading of a time that is not given up, or the fallback. -/
def firstTime (fallback : Instant) : List (Attempt Instant) → Attempt Instant
  | [] => .value fallback
  | .invalid :: rest => firstTime fallback rest
  | attempt :: _ => attempt

/-- `text.replace("Z", "+00:00")`. -/
def spellZulu (text : String) : String :=
  String.ofList (text.toList.flatMap fun c => if c = 'Z' then "+00:00".toList else [c])

/-- `parse_timestamp(value, fallback)`, for what a log line can hold. -/
def parseTimestamp (value : Json) (fallback : Instant) : Attempt Instant :=
  match value with
  | .null | .str "" => .value fallback
  | value =>
    let text := Text.strip (env.str value)
    if env.isDigits text then firstTime fallback [env.fromTimestamp text]
    else
      firstTime fallback
        [env.fromIsoFormat text, env.fromIsoFormat (spellZulu text),
          env.strptime "%d/%b/%Y:%H:%M:%S %z" text fallback,
          env.strptime "%b %d %H:%M:%S" text fallback,
          env.strptime "%Y-%m-%d %H:%M:%S" text fallback]

/-! ## Fields -/

/-- `ALIASES.get(field, [field])`. -/
def aliases (field : String) : List String :=
  if field = "timestamp" then ["timestamp", "time", "event_time", "datetime", "date"]
  else if field = "source_ip" then ["src_ip", "source_ip", "client_ip", "remote_addr", "ip"]
  else if field = "destination_ip" then ["dst_ip", "destination_ip"]
  else if field = "username" then ["user", "username", "account", "identity"]
  else if field = "http_method" then ["method", "http_method"]
  else if field = "request_path" then ["path", "uri", "request_path", "endpoint"]
  else if field = "status_code" then ["status", "status_code", "http_status"]
  else if field = "outcome" then ["result", "outcome", "status_text"]
  else if field = "message" then ["msg", "message", "event_message"]
  else if field = "user_agent" then ["agent", "user_agent"]
  else [field]

/-- `value in (None, "")`. -/
def isBlank : Json → Bool
  | .null => true
  | .str text => text == ""
  | _ => false

def first (data : Dict) (field : String) : Json :=
  let lowered := data.foldl (fun lowered entry =>
    Dict.set lowered (env.lower entry.1) entry.2) []
  ((aliases field).findSome? fun name =>
    (Dict.find? lowered name).filter fun value => !isBlank value).getD .null

/-- One of the words is in the text. -/
def mentions (text : String) (words : List String) : Bool :=
  words.any fun word => Text.contains text word

def normalizeOutcome (value : Json) (statusCode : Option Int) : String :=
  let text := env.lower (if value.truthy then env.str value else "")
  if mentions text ["deny", "denied", "forbid", "unauthor"] ||
      statusCode == some 401 || statusCode == some 403 then "denied"
  else if mentions text ["block", "drop", "reject"] then "blocked"
  else if mentions text ["fail", "invalid", "error"] ||
      statusCode.any (fun code => decide (400 ≤ code)) then "failure"
  else if mentions text ["success", "allow", "accept", "ok"] ||
      statusCode.any (fun code => decide (code < 400)) then "success"
  else "unknown"

/-- The event types that a line may name. -/
def approvedEventTypes : List String :=
  ["authentication", "authorization", "web_request", "api_request", "administrative_action",
    "security_control", "system", "unknown"]

/-- `str(value or "")`. -/
def textOr (value : Json) : String := if value.truthy then env.str value else ""

def normalizeEventType (data : Dict) (outcome : String) : String :=
  let named := (Dict.get data "event_type").orElse (Dict.get data "type")
  let explicit := Text.replaceChar ' ' (some '_')
    (Text.replaceChar '-' (some '_') (env.lower (textOr env named)))
  let combined := " ".intercalate (data.map fun entry => env.lower (env.str entry.2))
  let path := textOr env (first env data "request_path")
  if approvedEventTypes.contains explicit then explicit
  else if mentions combined ["login", "logon", "authentication", "password", "sshd"] then
    "authentication"
  else if mentions combined ["authorization", "permission", "access denied"] ||
      (outcome == "denied" && path == "") then "authorization"
  else if mentions (env.lower path) ["/admin", "/manage", "/privileged"] then
    "administrative_action"
  else if (first env data "http_method").truthy || path != "" then
    if Text.startsWith path "/api/" then "api_request" else "web_request"
  else if combined != "" then "system"
  else "unknown"

def validIp (value : Json) : Option String :=
  if value.truthy then env.ipAddress (Text.strip (env.str value)) else none

/-! ## Events -/

/-- The columns of `soc_events` that are made from the record of a log line. -/
structure RecordColumns where
  eventTime : Instant
  eventType : String
  action : Option String
  outcome : String
  severity : String
  sourceIp : Option String
  destinationIp : Option String
  username : Option String
  httpMethod : Option String
  requestPath : Option String
  statusCode : Option Int
  userAgent : Option String
  message : Option String
  normalizedJson : String
  rawEventHash : String

/-- The columns of `soc_events` that are made from a log line. -/
structure NormalizedEvent extends RecordColumns where
  rawPreviewRedacted : String

/-- The digest that tells events apart. -/
abbrev NormalizedEvent.eventHash (event : NormalizedEvent) : String := event.rawEventHash

/-- A text, or `null`. -/
def jsonText (value : Option String) : Json := (value.map Json.str).getD .null

/-- `str(first(..))[:limit]`, if there is a value. -/
def textWithin (limit : Nat) (value : Json) : Option String :=
  if value.truthy then some (Text.truncate limit (env.str value)) else none

/-- `redact_text(str(first(..) or ""), limit) or None`. -/
def redactedWithin (limit : Nat) (value : Json) : Option String :=
  let text := redactTextWithin env.toTextRuntime limit (textOr env value)
  if text = "" then none else some text

/-- The status code, `none` when the call raises. -/
def statusOf (redacted : Dict) : Option (Option Int) :=
  let statusRaw := first env redacted "status_code"
  if isBlank statusRaw then some none
  else match env.int statusRaw with
    | .value code => some (some code)
    | .invalid => some none
    | .raises => none

/-- The time of the event, `none` when the call raises. -/
def timeOf (redacted : Dict) (fallback : Instant) : Option Instant :=
  match parseTimestamp env (first env redacted "timestamp") fallback with
  | .value time => some time
  | _ => none

/-- The columns, from the redacted record, its status code and its time. -/
def assemble (redacted : Dict) (statusCode : Option Int) (eventTime : Instant) :
    RecordColumns :=
  let outcome := normalizeOutcome env (first env redacted "outcome") statusCode
  let eventType := normalizeEventType env redacted outcome
  let sourceIp := validIp env (first env redacted "source_ip")
  let destinationIp := validIp env (first env redacted "destination_ip")
  let username := textWithin env 160 (first env redacted "username")
  let httpMethod :=
    if (first env redacted "http_method").truthy then
      some (Text.truncate 16 (env.upper (env.str (first env redacted "http_method"))))
    else none
  let requestPath := textWithin env 1000 (first env redacted "request_path")
  let message := redactedWithin env 4000 (first env redacted "message")
  let userAgent := redactedWithin env 1000 (first env redacted "user_agent")
  let normalized := Dict.merge redacted
    [("event_time", .str (env.isoformat eventTime)), ("event_type", .str eventType),
      ("outcome", .str outcome), ("source_ip", jsonText sourceIp),
      ("destination_ip", jsonText destinationIp), ("username", jsonText username),
      ("http_method", jsonText httpMethod), ("request_path", jsonText requestPath),
      ("status_code", (statusCode.map Json.int).getD .null), ("message", jsonText message),
      ("user_agent", jsonText userAgent)]
  let canonical := env.dumps (.obj normalized)
  let severity := env.lower (env.str ((Dict.find? redacted "severity").getD (.str "info")))
  { eventTime, eventType, outcome, sourceIp, destinationIp, username, httpMethod, requestPath,
    statusCode, userAgent, message
    action := textWithin env 120 (Dict.get redacted "action")
    severity := if ["info", "low", "medium", "high", "critical"].contains severity then severity
      else "info"
    normalizedJson := canonical
    rawEventHash := env.sha256 canonical }

/-- The columns, unless a call raises. -/
def columnsOf (redacted : Dict) (fallback : Instant) : Option RecordColumns := do
  let statusCode ← statusOf env redacted
  let eventTime ← timeOf env redacted fallback
  let columns := assemble env redacted statusCode eventTime
  guard (env.encodes columns.normalizedJson)
  return columns

def normalizeEvent (data : Dict) (rawText : String) (fallback : Instant) :
    Option NormalizedEvent :=
  (columnsOf env (redactFields env.toTextRuntime data) fallback).map fun columns =>
    ⟨columns, redactTextWithin env.toTextRuntime 2000 rawText⟩

end ThreatScope.SocMonitor
