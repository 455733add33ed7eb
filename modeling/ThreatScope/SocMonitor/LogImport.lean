import ThreatScope.SocMonitor.Normalization

/-!
# Import of logs

`soc_monitor/parsers.py` and `import_log` of `soc_monitor/service.py`. A text is parsed into
rows, and the rows are stored one after another in one session. A row that does not
normalize is rejected. A row that the database refuses takes the session with it: every
later use of the session raises, at last outside the loop.
-/

set_option autoImplicit false

namespace ThreatScope.SocMonitor

open Library AccessControl

/-! ## Parsers -/

/-- `SocLogSource.parser_type`, except for the simulator, which takes no files. -/
inductive ParserType where
  | jsonl
  | csv
  | accessLog
  | authLog
  | keyValue
deriving DecidableEq

/-- What `json.loads` does: a value, a `ValueError`, or another exception. -/
inductive Loaded where
  | value (result : Json)
  | invalid (message : String)
  | raises

/-- What `csv.DictReader` reads from a text until it ends or raises. -/
structure CsvFile where
  hasHeader : Bool
  rows : List Dict
  error : Option String

/-- The parts of Python that parsing takes from its library. -/
structure ParserRuntime extends LogRuntime where
  /-- `text.splitlines()`. -/
  splitLines : String → List String
  /-- `json.loads(line)`. -/
  loads : String → Loaded
  /-- `re.compile(pattern).match(line).groupdict()`. -/
  groupDict : String → String → Option (List (String × Option String))
  /-- `re.search(pattern, text).group(1)`. -/
  searchGroup : String → String → Option String
  /-- `re.search(pattern, text, re.I)`. -/
  searchAnyCase : String → String → Bool
  /-- `shlex.split(line)`. -/
  shlexSplit : String → Except String (List String)
  /-- `csv.DictReader(io.StringIO(text))`. -/
  readCsv : String → CsvFile
  /-- `json.dumps(row, default=str)`. -/
  dumpRow : Dict → String

/-- A row of the parsed text. -/
structure ParsedRow where
  data : Option Dict
  raw : String
  error : Option String

variable (env : ParserRuntime)

/-- `ACCESS_RE`. -/
def accessPattern : String :=
  "^(?P<source_ip>\\S+) \\S+ (?P<username>\\S+) \\[(?P<timestamp>[^]]+)\\] \"(?P<method>[A-Z]+) " ++
    "(?P<path>\\S+)(?: HTTP/[^\\\"]+)?\" (?P<status>\\d\x7b3\x7d) (?:\\S+)" ++
    "(?: \"[^\"]*\" \"(?P<user_agent>[^\"]*)\")?"

/-- `AUTH_RE`. -/
def authPattern : String :=
  "^(?P<timestamp>\\w\x7b3\x7d\\s+\\d+\\s+\\d\\d:\\d\\d:\\d\\d)\\s+\\S+\\s+[^:]+:\\s+(?P<message>.*)$"

/-- The groups of a match as a record. -/
def groupFields (groups : List (String × Option String)) : Dict :=
  groups.map fun group => (group.1, jsonText group.2)

/-- One line of `parse_jsonl`, `none` when it raises. -/
def parseJsonLine (line : String) : Option ParsedRow :=
  match env.loads line with
  | .value (.obj fields) => some ⟨some fields, line, none⟩
  | .value _ => some ⟨none, line, some "JSON value must be an object"⟩
  | .invalid message => some ⟨none, line, some message⟩
  | .raises => none

/-- One line of `parse_access_log`. -/
def parseAccessLine (line : String) : ParsedRow :=
  match env.groupDict accessPattern line with
  | some groups => ⟨some (groupFields groups), line, none⟩
  | none => ⟨none, line, some "Unsupported access-log line"⟩

/-- One line of `parse_auth_log`. -/
def parseAuthLine (line : String) : ParsedRow :=
  match env.groupDict authPattern line with
  | none => ⟨none, line, some "Unsupported authentication-log line"⟩
  | some groups =>
    let data := groupFields groups
    let message := ((groups.find? fun group => group.1 == "message").bind Prod.snd).getD ""
    let address := env.searchGroup
      "\\b(?:from|rhost=)(\\d\x7b1,3\x7d(?:\\.\\d\x7b1,3\x7d)\x7b3\x7d)" message
    let user := env.searchGroup
      "\\b(?:for|user=)\\s*(?:invalid user\\s+)?([A-Za-z0-9_.-]+)" message
    let failed := env.searchAnyCase "fail|invalid|denied" message
    ⟨some (Dict.merge data
      [("source_ip", jsonText address), ("username", jsonText user),
        ("event_type", .str "authentication"),
        ("outcome", .str (if failed then "failure" else "success"))]), line, none⟩

/-- `token.split("=", 1)`, for a token with the sign. -/
def splitToken (token : String) : Option (String × String) :=
  match token.toList.span (· != '=') with
  | (_, []) => none
  | (key, _ :: value) => some (String.ofList key, String.ofList value)

/-- One line of `parse_key_value`. -/
def parseKeyValueLine (line : String) : ParsedRow :=
  match env.shlexSplit line with
  | .error message => ⟨none, line, some message⟩
  | .ok tokens =>
    let values := (tokens.filterMap splitToken).foldl (fun values entry =>
      Dict.set values entry.1 (.str entry.2)) []
    if values.isEmpty then ⟨none, line, some "No key=value fields found"⟩
    else ⟨some values, line, none⟩

def parseCsv (text : String) : List ParsedRow :=
  let file := env.readCsv text
  if !file.hasHeader then [⟨none, Text.truncate 200 text, some "CSV header is missing"⟩]
  else
    (file.rows.map fun row => ⟨some row, env.dumpRow row, none⟩) ++
      (file.error.map fun message => ⟨none, Text.truncate 200 text, some message⟩).toList

/-- The lines that are not blank. -/
def linesOf (text : String) : List String :=
  (env.splitLines text).filter fun line => Text.strip line != ""

/-- One line of a parser that works line by line. -/
def parseLine : ParserType → String → Option ParsedRow
  | .jsonl, line => parseJsonLine env line
  | .accessLog, line => some (parseAccessLine env line)
  | .authLog, line => some (parseAuthLine env line)
  | .keyValue, line => some (parseKeyValueLine env line)
  | .csv, _ => none

/-- `parse_content(parser_type, text)`, `none` when it raises. -/
def parseContent (parser : ParserType) (text : String) : Option (List ParsedRow) :=
  if parser = .csv then some (parseCsv env text)
  else (linesOf env text).mapM (parseLine env parser)

/-! ## Events -/

/-- A row of `soc_events`. -/
structure LogEvent where
  sourceId : Nat
  importId : Option Nat
  columns : NormalizedEvent

/-- A row of `soc_log_sources`. -/
structure SocLogSource where
  parserType : ParserType
  eventCount : Nat
  lastIngestedAt : Option Instant

/-- `SocLogImport.status`. -/
inductive ImportStatus where
  | processing
  | completed
  | failed
deriving DecidableEq

/-- A row of `soc_log_imports`. -/
structure SocLogImport where
  sourceId : Nat
  filename : String
  fileHash : String
  totalLines : Nat
  acceptedEvents : Nat
  rejectedEvents : Nat
  status : ImportStatus
  errorSummary : Option String
  completedAt : Option Instant

/-- The tables of the import. -/
structure LogStore where
  sources : Table SocLogSource
  imports : Table SocLogImport
  events : Table LogEvent

/-- SQLite binds the number, which has at most 64 bits. -/
def NormalizedEvent.binds (event : NormalizedEvent) : Bool :=
  event.statusCode.all fun code =>
    decide (-9223372036854775808 ≤ code) && decide (code ≤ 9223372036854775807)

/-- A session. After a flush that failed it is not active any more. -/
structure ImportSession where
  events : Table LogEvent
  active : Bool

/-- What `insert_event` does. -/
inductive Inserted where
  | added
  | duplicate
  | raised
deriving DecidableEq

def insertEvent (sourceId : Nat) (importId : Option Nat) (fallback : Instant)
    (session : ImportSession) (data : Dict) (raw : String) : ImportSession × Inserted :=
  match normalizeEvent env.toLogRuntime data raw fallback with
  | none => (session, .raised)
  | some columns =>
    if !session.active then (session, .raised)
    else if session.events.rows.any fun row =>
        row.2.columns.rawEventHash == columns.rawEventHash then (session, .duplicate)
    else if columns.binds then
      ({ session with events := session.events.insert ⟨sourceId, importId, columns⟩ }, .added)
    else ({ session with active := false }, .raised)

/-! ## The import -/

/-- The loop of an import. -/
structure ImportLoop where
  session : ImportSession
  accepted : Nat
  rejected : Nat
  errors : List String

def maxImportEvents : Nat := 10000

/-- Count a rejected row, with a message among the first five. -/
def ImportLoop.reject (loop : ImportLoop) (message : Option String) : ImportLoop :=
  { loop with
    rejected := loop.rejected + 1
    errors := loop.errors ++ (message.filter fun _ => decide (loop.errors.length < 5)).toList }

/-- One row of the loop. The clock is read for the fallback of the time. -/
def ImportLoop.next (limit : Nat) (sourceId importId : Nat) (clock : Nat → Instant)
    (loop : ImportLoop) (entry : ParsedRow × Nat) : ImportLoop :=
  if limit ≤ loop.accepted then loop.reject (some "10,000-event import limit reached")
  else match entry.1.error, entry.1.data with
    | none, some data =>
      match insertEvent env sourceId (some importId) (clock entry.2) loop.session data
          entry.1.raw with
      | (session, .added) => { loop with session, accepted := loop.accepted + 1 }
      | (session, .duplicate) => { loop with session }.reject none
      | (session, .raised) =>
        { loop with session }.reject
          (some ("Line " ++ toString (entry.2 + 1) ++ ": normalization rejected"))
    | error, _ => loop.reject (some ("Line " ++ toString (entry.2 + 1) ++ ": " ++
        redactTextWithin env.toTextRuntime 240 (error.getD "Malformed row")))

/-- `import_log` from the decoded text on. `none` when it raises, and nothing is
committed. -/
def importLog (store : LogStore) (sourceId : Nat) (source : SocLogSource)
    (filename fileHash text : String) (clock : Nat → Instant) (finished : Instant) :
    Option LogStore := do
  let rows ← parseContent env source.parserType text
  let importId := store.imports.nextKey
  let loop := rows.zipIdx.foldl (ImportLoop.next env maxImportEvents sourceId importId clock)
    ⟨⟨store.events, true⟩, 0, 0, []⟩
  guard loop.session.active
  return {
    sources := store.sources.modify sourceId fun source =>
      { source with
        eventCount := source.eventCount + loop.accepted
        lastIngestedAt := some finished }
    imports := store.imports.insert {
      sourceId, filename, fileHash
      totalLines := rows.length
      acceptedEvents := loop.accepted
      rejectedEvents := loop.rejected
      status := .completed
      errorSummary := if loop.errors.isEmpty then none else some ("; ".intercalate loop.errors)
      completedAt := some finished }
    events := loop.session.events }

end ThreatScope.SocMonitor
