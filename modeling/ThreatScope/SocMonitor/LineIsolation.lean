import ThreatScope.Library.FirstNew
import ThreatScope.SocMonitor.LogImport

/-!
# Isolation of lines

Every row of an import is counted once. As long as no row is refused by the database, it
stores the first new events of its rows, whatever rows stand between them. A row that
is refused, and a line at which the parser itself raises, end the import without a trace.
-/

set_option autoImplicit false

namespace ThreatScope.SocMonitor

open Library AccessControl

variable (env : ParserRuntime)

/-! ## The events of rows -/

/-- The event of a row that is well formed. -/
def rowEvent (clock : Nat → Instant) (entry : ParsedRow × Nat) : Option NormalizedEvent :=
  match entry.1.error, entry.1.data with
  | none, some data => normalizeEvent env.toLogRuntime data entry.1.raw (clock entry.2)
  | _, _ => none

/-- The events of the rows that are well formed. -/
def eventsOf (clock : Nat → Instant) (rows : List ParsedRow) : List NormalizedEvent :=
  rows.zipIdx.filterMap (rowEvent env clock)

/-- The digests of the stored events. -/
def hashesOf (events : Table LogEvent) : List String :=
  events.rows.map fun row => row.2.columns.rawEventHash

/-- The columns of the stored events. -/
def columnsIn (events : Table LogEvent) : List NormalizedEvent :=
  events.rows.map fun row => row.2.columns

theorem hashesOf_eq (events : Table LogEvent) :
    hashesOf events = (columnsIn events).map NormalizedEvent.eventHash := by
  unfold hashesOf columnsIn
  rw [List.map_map]
  rfl

section Loop

variable {env} {limit sourceId importId : Nat} {clock : Nat → Instant}

/-- A line that is skipped is counted and nothing else. -/
theorem next_of_skipped (sourceId importId : Nat) {loop : ImportLoop} {entry : ParsedRow × Nat}
    (skipped : limit ≤ loop.accepted ∨ rowEvent env clock entry = none) :
    ∃ message, loop.next env limit sourceId importId clock entry = loop.reject message := by
  unfold ImportLoop.next
  split
  · exact ⟨_, rfl⟩
  · rename_i room
    have none_ := skipped.resolve_left room
    unfold rowEvent at none_
    split
    · rename_i noError hasData
      rw [noError, hasData] at none_
      dsimp only at none_
      unfold insertEvent
      rw [none_]
      exact ⟨_, rfl⟩
    · exact ⟨_, rfl⟩

/-- A line with an event is known already, is stored, or ends the session. -/
theorem next_of_event (sourceId importId : Nat) {loop : ImportLoop}
    (active : loop.session.active = true)
    (room : loop.accepted < limit) {entry : ParsedRow × Nat} {event : NormalizedEvent}
    (made : rowEvent env clock entry = some event) :
    (event.eventHash ∈ hashesOf loop.session.events ∧
        loop.next env limit sourceId importId clock entry = loop.reject none) ∨
      (event.eventHash ∉ hashesOf loop.session.events ∧ event.binds = true ∧
        loop.next env limit sourceId importId clock entry =
          { loop with
            session := { loop.session with
              events := loop.session.events.insert ⟨sourceId, some importId, event⟩ }
            accepted := loop.accepted + 1 }) ∨
      (event.eventHash ∉ hashesOf loop.session.events ∧ event.binds = false ∧
        (loop.next env limit sourceId importId clock entry).session.active = false) := by
  have known : (loop.session.events.rows.any fun row =>
      row.2.columns.rawEventHash == event.eventHash) =
        decide (event.eventHash ∈ hashesOf loop.session.events) := by
    rw [Bool.eq_iff_iff, List.any_eq_true, decide_eq_true_eq, hashesOf, List.mem_map]
    simp
  unfold rowEvent at made
  unfold ImportLoop.next
  rw [if_neg (Nat.not_le.mpr room)]
  split at made
  · rename_i noError hasData
    simp only [noError, hasData]
    unfold insertEvent
    rw [made]
    dsimp only
    rw [active, known]
    by_cases old : event.eventHash ∈ hashesOf loop.session.events
    · exact .inl ⟨old, by rw [decide_eq_true old]; rfl⟩
    · rw [decide_eq_false old]
      cases binds : event.binds with
      | true => exact .inr (.inl ⟨old, rfl, rfl⟩)
      | false => exact .inr (.inr ⟨old, rfl, rfl⟩)
  · cases made

theorem inactive_next {loop : ImportLoop} (inactive : loop.session.active = false)
    (entry : ParsedRow × Nat) :
    (loop.next env limit sourceId importId clock entry).session.active = false := by
  unfold ImportLoop.next
  split
  · exact inactive
  · split
    · unfold insertEvent
      cases normalizeEvent env.toLogRuntime _ entry.1.raw (clock entry.2) with
      | none => exact inactive
      | some columns =>
        dsimp only
        rw [inactive]
        exact inactive
    · exact inactive

/-- A dead session stays dead. -/
theorem inactive_foldl {loop : ImportLoop} (inactive : loop.session.active = false)
    (entries : List (ParsedRow × Nat)) :
    (entries.foldl (ImportLoop.next env limit sourceId importId clock)
      loop).session.active = false := by
  induction entries generalizing loop with
  | nil => exact inactive
  | cons entry rest ih => exact ih (inactive_next inactive entry)

/-- Every line is accepted or rejected. -/
theorem counted_next (loop : ImportLoop) (entry : ParsedRow × Nat) :
    (loop.next env limit sourceId importId clock entry).accepted +
        (loop.next env limit sourceId importId clock entry).rejected =
      loop.accepted + loop.rejected + 1 := by
  unfold ImportLoop.next
  split
  · rfl
  · split
    · split
      · dsimp only
        omega
      · rfl
      · rfl
    · rfl

/-- The counts of a text add up to its lines. -/
theorem counted_foldl (env : ParserRuntime) (limit sourceId importId : Nat) (clock : Nat → Instant)
    (entries : List (ParsedRow × Nat)) (loop : ImportLoop) :
    (entries.foldl (ImportLoop.next env limit sourceId importId clock) loop).accepted +
        (entries.foldl (ImportLoop.next env limit sourceId importId clock) loop).rejected =
      loop.accepted + loop.rejected + entries.length := by
  induction entries generalizing loop with
  | nil => rfl
  | cons entry rest ih =>
    rw [List.foldl_cons, ih, counted_next, List.length_cons]
    omega

/-- **The loop stores the first new events**, and stays active if and only if the database
takes all of them. -/
theorem foldl_next (env : ParserRuntime) (limit sourceId importId : Nat) (clock : Nat → Instant)
    (entries : List (ParsedRow × Nat)) (loop : ImportLoop) (active : loop.session.active = true) :
    ((entries.foldl (ImportLoop.next env limit sourceId importId clock)
        loop).session.active = true ↔
      ∀ event ∈ firstNew NormalizedEvent.eventHash (limit - loop.accepted)
        (hashesOf loop.session.events) (entries.filterMap (rowEvent env clock)),
        event.binds = true) ∧
    ((entries.foldl (ImportLoop.next env limit sourceId importId clock)
        loop).session.active = true →
      columnsIn (entries.foldl (ImportLoop.next env limit sourceId importId clock)
          loop).session.events =
        columnsIn loop.session.events ++ firstNew NormalizedEvent.eventHash
          (limit - loop.accepted) (hashesOf loop.session.events)
          (entries.filterMap (rowEvent env clock))) := by
  induction entries generalizing loop with
  | nil => simp [active]
  | cons entry rest ih =>
    rw [List.foldl_cons]
    by_cases skipped : limit ≤ loop.accepted ∨ rowEvent env clock entry = none
    · obtain ⟨message, step⟩ := next_of_skipped sourceId importId skipped
      have tail : firstNew NormalizedEvent.eventHash (limit - loop.accepted)
          (hashesOf loop.session.events) ((entry :: rest).filterMap (rowEvent env clock)) =
          firstNew NormalizedEvent.eventHash (limit - loop.accepted)
            (hashesOf loop.session.events) (rest.filterMap (rowEvent env clock)) := by
        rcases skipped with full | none_
        · rw [Nat.sub_eq_zero_of_le full, firstNew_zero, firstNew_zero]
        · rw [List.filterMap_cons_none none_]
      rw [step, tail]
      exact ih (loop.reject message) active
    · rw [not_or, Nat.not_le] at skipped
      obtain ⟨room, isEvent⟩ := skipped
      obtain ⟨event, made⟩ := Option.ne_none_iff_exists'.mp isEvent
      rw [List.filterMap_cons_some made]
      rcases next_of_event sourceId importId active room made with
        ⟨old, step⟩ | ⟨new, binds, step⟩ | ⟨new, refused, step⟩
      · rw [step, firstNew_cons_of_mem old]
        exact ih (loop.reject none) active
      · obtain ⟨more, split⟩ : ∃ more, limit - loop.accepted = more + 1 :=
          ⟨limit - loop.accepted - 1, by omega⟩
        have later : limit - (loop.accepted + 1) = more := by omega
        rw [step, split, firstNew_cons_of_not_mem new, List.forall_mem_cons]
        have stored : columnsIn (loop.session.events.insert ⟨sourceId, some importId, event⟩) =
            columnsIn loop.session.events ++ [event] := by
          unfold columnsIn Table.insert
          rw [List.map_append]
          rfl
        have hashes : hashesOf (loop.session.events.insert ⟨sourceId, some importId, event⟩) =
            hashesOf loop.session.events ++ [event.eventHash] := by
          rw [hashesOf_eq, stored, List.map_append, ← hashesOf_eq]
          rfl
        obtain ⟨stays, keeps⟩ := ih
          { loop with
            session := { loop.session with
              events := loop.session.events.insert ⟨sourceId, some importId, event⟩ }
            accepted := loop.accepted + 1 } active
        dsimp only at stays keeps
        rw [later, hashes] at stays keeps
        refine ⟨stays.trans ⟨fun all => ⟨binds, all⟩, And.right⟩, fun still => ?_⟩
        rw [keeps still, stored, List.append_assoc, List.singleton_append]
      · obtain ⟨more, split⟩ : ∃ more, limit - loop.accepted = more + 1 :=
          ⟨limit - loop.accepted - 1, by omega⟩
        rw [split, firstNew_cons_of_not_mem new, inactive_foldl step, List.forall_mem_cons,
          refused]
        simp

end Loop

/-! ## Lines on their own -/

/-- The rows that the parser makes of the lines of a text, each on its own. A line of a CSV
file stands under the header of the file. -/
def rowsAlone (parser : ParserType) (text : String) : List ParsedRow :=
  if parser = .csv then
    match env.splitLines text with
    | [] => []
    | header :: lines =>
      (lines.filter fun line => Text.strip line != "").flatMap fun line =>
        parseCsv env (header ++ "\n" ++ line)
  else (linesOf env text).filterMap (parseLine env parser)

/-- The events that the lines of a text give when each is imported alone. -/
def eventsAlone (parser : ParserType) (text : String) (clock : Nat → Instant) :
    List NormalizedEvent :=
  (eventsOf env clock (rowsAlone env parser text)).filter NormalizedEvent.binds

/-- Every record of the text has a time that is read from the line alone. -/
def Dated (parser : ParserType) (text : String) : Prop :=
  ∀ rows, parseContent env parser text = some rows → ∀ row ∈ rows, ∀ data,
    row.data = some data → ∀ one other,
      parseTimestamp env.toLogRuntime
          (first env.toLogRuntime (redactFields env.toTextRuntime data) "timestamp") one =
        parseTimestamp env.toLogRuntime
          (first env.toLogRuntime (redactFields env.toTextRuntime data) "timestamp") other

/-- Lines with dates of their own give the same events at any time. -/
theorem eventsOf_of_dated {env : ParserRuntime} {parser : ParserType} {text : String}
    (dated : Dated env parser text) {rows : List ParsedRow}
    (parsed : parseContent env parser text = some rows) (clock later : Nat → Instant) :
    eventsOf env clock rows = eventsOf env later rows := by
  unfold eventsOf
  refine List.filterMap_congr fun entry member => ?_
  have inRows := (List.mem_zipIdx member).2.2
  unfold rowEvent
  split
  · rename_i data noError hasData
    have sameTime := dated rows parsed entry.1 (inRows ▸ List.getElem_mem _) data hasData
      (clock entry.2) (later entry.2)
    unfold normalizeEvent columnsOf timeOf
    rw [sameTime]
  · rfl

/-! ## The import as a whole -/

/-- What an import is asked for. -/
structure ImportRequest where
  sourceId : Nat
  source : SocLogSource
  filename : String
  fileHash : String
  text : String

/-- The import of a request. -/
def ImportRequest.run (request : ImportRequest) (store : LogStore) (clock : Nat → Instant)
    (finished : Instant) : Option LogStore :=
  importLog env store request.sourceId request.source request.filename request.fileHash
    request.text clock finished

/-- The first new events of a list. -/
abbrev newEvents (limit : Nat) (store : LogStore) (events : List NormalizedEvent) :
    List NormalizedEvent :=
  firstNew NormalizedEvent.eventHash limit (hashesOf store.events) events

section Import

variable {env} {request : ImportRequest} {store : LogStore} {clock : Nat → Instant}
  {finished : Instant} {rows : List ParsedRow}

/-- An import stores its new events, or raises and stores nothing. -/
theorem run_eq (store : LogStore) (clock : Nat → Instant) (finished : Instant)
    (parsed : parseContent env request.source.parserType request.text = some rows) :
    (∃ after, request.run env store clock finished = some after ∧
        columnsIn after.events = columnsIn store.events ++
          newEvents maxImportEvents store (eventsOf env clock rows) ∧
        ∃ record, after.imports.get? store.imports.nextKey = some record ∧
          record.status = .completed ∧
          record.totalLines = record.acceptedEvents + record.rejectedEvents) ∧
      (∀ event ∈ newEvents maxImportEvents store (eventsOf env clock rows),
        event.binds = true) ∨
    request.run env store clock finished = none ∧
      ¬ ∀ event ∈ newEvents maxImportEvents store (eventsOf env clock rows),
        event.binds = true := by
  have spec := foldl_next env maxImportEvents request.sourceId store.imports.nextKey clock
    rows.zipIdx ⟨⟨store.events, true⟩, 0, 0, []⟩ rfl
  have counted := counted_foldl env maxImportEvents request.sourceId store.imports.nextKey
    clock rows.zipIdx ⟨⟨store.events, true⟩, 0, 0, []⟩
  unfold ImportRequest.run importLog
  rw [parsed]
  dsimp only [Option.bind_eq_bind, Option.bind_some]
  generalize rows.zipIdx.foldl (ImportLoop.next env maxImportEvents request.sourceId
    store.imports.nextKey clock) ⟨⟨store.events, true⟩, 0, 0, []⟩ = loop at spec counted ⊢
  obtain ⟨stays, keeps⟩ := spec
  cases active : loop.session.active with
  | true =>
    refine .inl ⟨⟨_, rfl, keeps active, _, Table.get?_insert_nextKey _ _, rfl, ?_⟩,
      stays.mp active⟩
    rw [List.length_zipIdx] at counted
    dsimp only at counted ⊢
    omega
  | false =>
    refine .inr ⟨rfl, fun all => ?_⟩
    exact Bool.false_ne_true (active.symm.trans (stays.mpr all))

theorem rowsAlone_of_parsed {parser : ParserType} {text : String} (byLine : parser ≠ .csv)
    (parsed : parseContent env parser text = some rows) :
    rowsAlone env parser text = rows := by
  unfold parseContent at parsed
  unfold rowsAlone
  rw [if_neg byLine] at parsed ⊢
  generalize linesOf env text = lines at parsed
  induction lines generalizing rows with
  | nil =>
    cases parsed
    rfl
  | cons line rest ih =>
    rw [List.mapM_cons] at parsed
    obtain ⟨row, made, parsed⟩ := Option.bind_eq_some_iff.mp parsed
    obtain ⟨others, more, same⟩ := Option.bind_eq_some_iff.mp parsed
    cases same
    rw [List.filterMap_cons_some made, ih more]

/-- A line does not matter to the other lines: the import completes, counts every row once,
stores what the lines store alone, and finds nothing new in a dated text the second time. -/
def Isolated (env : ParserRuntime) (request : ImportRequest) (store : LogStore)
    (clock : Nat → Instant) (finished : Instant) : Prop :=
  ∃ after, request.run env store clock finished = some after ∧
    (∃ record, after.imports.get? store.imports.nextKey = some record ∧
      record.status = .completed ∧
      record.totalLines = record.acceptedEvents + record.rejectedEvents) ∧
    columnsIn after.events = columnsIn store.events ++
      newEvents maxImportEvents store
        (eventsAlone env request.source.parserType request.text clock) ∧
    (Dated env request.source.parserType request.text → ∀ later finishedLater, ∃ again,
      request.run env after later finishedLater = some again ∧
        columnsIn again.events = columnsIn after.events)

/-- The parser does not raise, the database takes every new event, a CSV reader finds in the
text the events of its lines, and a dated text has no more new events than one import
takes. -/
def Harmless (env : ParserRuntime) (request : ImportRequest) (store : LogStore)
    (clock : Nat → Instant) : Prop :=
  ∃ rows, parseContent env request.source.parserType request.text = some rows ∧
    (∀ event ∈ newEvents maxImportEvents store (eventsOf env clock rows),
      event.binds = true) ∧
    (request.source.parserType = .csv →
      newEvents maxImportEvents store (eventsOf env clock rows) =
        newEvents maxImportEvents store
          (eventsAlone env request.source.parserType request.text clock)) ∧
    (Dated env request.source.parserType request.text →
      (newEvents (maxImportEvents + 1) store (eventsOf env clock rows)).length ≤
        maxImportEvents)

theorem newEvents_alone (byLine : request.source.parserType ≠ .csv)
    (parsed : parseContent env request.source.parserType request.text = some rows)
    (binds : ∀ event ∈ newEvents maxImportEvents store (eventsOf env clock rows),
      event.binds = true) :
    newEvents maxImportEvents store (eventsOf env clock rows) =
      newEvents maxImportEvents store
        (eventsAlone env request.source.parserType request.text clock) := by
  unfold eventsAlone
  rw [rowsAlone_of_parsed byLine parsed]
  exact (firstNew_filter binds).symm

/-- The same text again stores nothing new if and only if the limit cut off no new event. -/
theorem run_again_iff {after : LogStore}
    (parsed : parseContent env request.source.parserType request.text = some rows)
    (dated : Dated env request.source.parserType request.text)
    (stored : columnsIn after.events = columnsIn store.events ++
      newEvents maxImportEvents store (eventsOf env clock rows)) :
    (∀ later finishedLater, ∃ again, request.run env after later finishedLater = some again ∧
        columnsIn again.events = columnsIn after.events) ↔
      (newEvents (maxImportEvents + 1) store (eventsOf env clock rows)).length ≤
        maxImportEvents := by
  have known : hashesOf after.events = hashesOf store.events ++
      (newEvents maxImportEvents store (eventsOf env clock rows)).map
        NormalizedEvent.eventHash := by
    rw [hashesOf_eq, stored, List.map_append, ← hashesOf_eq]
  have nothing : newEvents maxImportEvents after (eventsOf env clock rows) = [] ↔
      (newEvents (maxImportEvents + 1) store (eventsOf env clock rows)).length ≤
        maxImportEvents := by
    rw [← firstNew_again_eq_nil_iff (by decide)]
    unfold newEvents
    rw [known]
  rw [← nothing]
  constructor
  · intro again
    obtain ⟨second, ran, same⟩ := again clock 0
    rcases run_eq after clock 0 parsed with
      ⟨⟨other, otherRan, effect, -⟩, -⟩ | ⟨raised, -⟩
    · obtain rfl := Option.some.inj (ran.symm.trans otherRan)
      rw [effect] at same
      exact List.append_right_eq_self.mp same
    · rw [raised] at ran
      cases ran
  · intro empty later finishedLater
    have empty' : newEvents maxImportEvents after (eventsOf env later rows) = [] := by
      rw [eventsOf_of_dated dated parsed later clock, empty]
    rcases run_eq after later finishedLater parsed with
      ⟨⟨other, otherRan, effect, -⟩, -⟩ | ⟨-, refused⟩
    · refine ⟨other, otherRan, ?_⟩
      rw [effect, empty', List.append_nil]
    · exact absurd (by rw [empty']; simp) refused

end Import

/-- **Isolation of lines.** An import isolates its lines if and only if the text is harmless:
the parser raises at no line, every new event has a number that the database takes, a CSV
reader finds the events of the lines, and a dated text has at most ten thousand new
events. -/
theorem line_isolation (env : ParserRuntime) (request : ImportRequest) (store : LogStore)
    (clock : Nat → Instant) (finished : Instant) :
    Isolated env request store clock finished ↔ Harmless env request store clock := by
  constructor
  · rintro ⟨after, ran, -, stored, again⟩
    cases parsed : parseContent env request.source.parserType request.text with
    | none =>
      unfold ImportRequest.run importLog at ran
      rw [parsed] at ran
      cases ran
    | some rows =>
      rcases run_eq store clock finished parsed with
        ⟨⟨other, otherRan, effect, -⟩, binds⟩ | ⟨raised, -⟩
      · obtain rfl := Option.some.inj (ran.symm.trans otherRan)
        refine ⟨rows, parsed, binds, fun _ => ?_, fun dated => ?_⟩
        · exact List.append_cancel_left (effect.symm.trans stored)
        · exact (run_again_iff parsed dated effect).mp (again dated)
      · rw [raised] at ran
        cases ran
  · rintro ⟨rows, parsed, binds, csv, few⟩
    rcases run_eq store clock finished parsed with
      ⟨⟨after, ran, effect, record⟩, -⟩ | ⟨-, refused⟩
    · refine ⟨after, ran, record, effect.trans (congrArg _ ?_), fun dated => ?_⟩
      · by_cases byLine : request.source.parserType = .csv
        · exact csv byLine
        · exact newEvents_alone byLine parsed binds
      · exact (run_again_iff parsed dated effect).mpr (few dated)
    · exact absurd binds refused

/-! ## A number that is too large -/

/-- A runtime for short ASCII texts, without times and without CSV. -/
def plainLogs : ParserRuntime where
  lower text := String.ofList (text.toList.map Char.toLower)
  isWord c := c.isAlphanum || c == '_'
  sameLetter letter c := letter.toLower == c.toLower
  upper text := String.ofList (text.toList.map Char.toUpper)
  str
    | .str text => text
    | .int number => toString number
    | _ => "None"
  int
    | .int number => .value number
    | .str text =>
      if text.toList.all Char.isDigit && text != "" then
        .value (text.toList.foldl (fun number digit => 10 * number + (digit.toNat - 48 : Nat)) 0)
      else .invalid
    | _ => .invalid
  ipAddress _ := none
  isDigits text := text.toList.all Char.isDigit && text != ""
  fromTimestamp _ := .invalid
  fromIsoFormat _ := .invalid
  strptime _ _ _ := .invalid
  isoformat time := toString time
  dumps
    | .obj fields => ", ".intercalate (fields.map fun field => field.1 ++ ": " ++
        match field.2 with
        | .str text => "\"" ++ text ++ "\""
        | .int number => toString number
        | _ => "null")
    | _ => "null"
  encodes _ := true
  sha256 text := text
  splitLines text := Text.split '\n' text
  loads _ := .invalid "Expecting value"
  groupDict _ _ := none
  searchGroup _ _ := none
  searchAnyCase _ _ := false
  shlexSplit text := .ok (Text.words text)
  readCsv _ := ⟨false, [], none⟩
  dumpRow _ := ""

/-- A source of lines with keys and values. -/
def keyValueSource : SocLogSource := ⟨.keyValue, 0, none⟩

def emptyLogs : LogStore where
  sources := Table.empty.insert keyValueSource
  imports := Table.empty
  events := Table.empty

/-- A good line, and a line with a status of more than 64 bits. -/
def largeStatus : ImportRequest :=
  ⟨1, keyValueSource, "events.log", "digest", "message=hello\nstatus=9223372036854775808"⟩

/-- **One line with a number that is too large ends the whole import**, also the good line
before it. -/
theorem large_status_ends_import :
    ¬ Isolated plainLogs largeStatus emptyLogs (fun _ => 0) 0 ∧
      (eventsAlone plainLogs .keyValue largeStatus.text fun _ => 0).map
        (fun event => event.message) = [some "hello"] := by
  constructor
  · rintro ⟨after, ran, -⟩
    have raised : (largeStatus.run plainLogs emptyLogs (fun _ => 0) 0).isNone = true := by
      decide +kernel
    rw [ran] at raised
    cases raised
  · decide +kernel

end ThreatScope.SocMonitor
