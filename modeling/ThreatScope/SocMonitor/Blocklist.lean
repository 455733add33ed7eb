import ThreatScope.Library.AddressText
import ThreatScope.SocMonitor.Correlation

/-!
# The simulated blocklist

`soc_monitor/blocklist.py`, with what the detection and the overview read of it. The entries
keep the spelling of the analyst, and events carry addresses as Python writes them. The
detection looks for an event's address among the texts of the active entries, whether they
have expired or not; the overview counts the active entries that have not.

The two agree on every event exactly if the entries are settled (`blocklist_agrees_iff`): an
expired entry in the spelling of Python has a counted sibling, and a counted entry has an
active sibling in that spelling.
-/

set_option autoImplicit false

namespace ThreatScope.SocMonitor

open Library AccessControl

/-! ## Entries -/

/-- `SocBlocklistEntry.indicator_type`. -/
inductive IndicatorType where
  | ip
  | domain
  | username
deriving DecidableEq

/-- `SocBlocklistEntry.status`. -/
inductive BlocklistStatus where
  | active
  | expired
  | removed
deriving DecidableEq

/-- A row of `soc_blocklist_entries`. The expiry is the wall clock that the column keeps. -/
structure SocBlocklistEntry where
  indicatorType : IndicatorType
  indicatorValue : String
  reason : String
  sourceAlertId : Option Nat
  status : BlocklistStatus
  expiresAt : Option Instant
deriving DecidableEq

/-- The tables of the monitor, with the blocklist. -/
structure MonitorStore where
  soc : SocStore
  entries : Table SocBlocklistEntry

/-- What the module takes from the runtime. -/
structure MonitorRuntime extends SocRuntime where
  /-- `text.isalnum()`. -/
  isAlnum : String → Bool

/-- What a request fails with. -/
inductive BlocklistError where
  | unprocessable (detail : String)
  | notFound (detail : String)
  /-- An `IntegrityError` of the database. -/
  | integrity

/-! ## Requests -/

/-- `str(ipaddress.ip_address(text.strip()))` as `valid_ip` returns it for a text. -/
def canonicalIp (text : String) : Option String :=
  (ipAddress (Text.strip text).toList).map fun address => String.ofList address.compressed

/-- A label of a domain: `part and part.replace("-", "").isalnum()`. -/
def domainPart (env : MonitorRuntime) (part : String) : Bool :=
  part != "" && env.isAlnum (Text.replaceChar '-' none part)

def validateIndicator (env : MonitorRuntime) (indicatorType : IndicatorType)
    (text : String) : Except BlocklistError String :=
  let value := Text.strip text
  match indicatorType with
  | .ip =>
    if (ipAddress value.toList).isNone then .error (.unprocessable "Invalid IP indicator")
    else .ok value
  | .domain =>
    let bare := String.ofList ((env.lower value).toList.rdropWhile fun c => c = '.')
    if 253 < value.length ∨ !(Text.split '.' bare).all (domainPart env) then
      .error (.unprocessable "Invalid domain indicator")
    else .ok value
  | .username =>
    if value = "" ∨ value.toList.any fun c => ['\r', '\n', '\x00'].contains c then
      .error (.unprocessable "Invalid username indicator")
    else .ok value

/-- `BlocklistCreate`. -/
structure BlocklistCreate where
  indicatorType : IndicatorType
  indicatorValue : String
  reason : String
  sourceAlertId : Option Nat
  expiresAt : Option Instant

/-- `BlocklistUpdate`: a field is left out, null, or has a value. -/
structure BlocklistUpdate where
  reason : Option (Option String)
  status : Option (Option BlocklistStatus)
  expiresAt : Option (Option Instant)

variable (env : MonitorRuntime)

/-- An alert with the key is stored. -/
def MonitorStore.hasAlert (store : MonitorStore) (key : Nat) : Bool :=
  (store.soc.alerts.get? key).isSome

/-- The entry that a request adds. -/
def BlocklistCreate.entry (payload : BlocklistCreate) (value : String) : SocBlocklistEntry where
  indicatorType := payload.indicatorType
  indicatorValue := value
  reason := payload.reason
  sourceAlertId := payload.sourceAlertId
  status := .active
  expiresAt := payload.expiresAt

/-- An entry that a request for its value sets active. -/
def SocBlocklistEntry.reactivated (payload : BlocklistCreate) (entry : SocBlocklistEntry) :
    SocBlocklistEntry :=
  { entry with
    reason := payload.reason
    sourceAlertId := payload.sourceAlertId
    expiresAt := payload.expiresAt
    status := .active }

/-- An entry with the fields that a request sets. -/
def SocBlocklistEntry.patched (payload : BlocklistUpdate) (entry : SocBlocklistEntry) :
    SocBlocklistEntry :=
  { entry with
    reason := (payload.reason.bind id).getD entry.reason
    status := (payload.status.bind id).getD entry.status
    expiresAt := payload.expiresAt.getD entry.expiresAt }

/-- An entry that is deleted, which keeps its row. -/
def SocBlocklistEntry.withdrawn (entry : SocBlocklistEntry) : SocBlocklistEntry :=
  { entry with status := .removed }

/-- `create(db, payload)`. A zero names no alert to look up, but the foreign key refuses it. -/
def MonitorStore.create (store : MonitorStore) (payload : BlocklistCreate) :
    Except BlocklistError MonitorStore := do
  let value ← validateIndicator env payload.indicatorType payload.indicatorValue
  if payload.sourceAlertId.any fun key => key != 0 && !store.hasAlert key then
    .error (.notFound "SOC alert not found")
  else if payload.sourceAlertId.any fun key => !store.hasAlert key then .error .integrity
  else
    match store.entries.first? fun _ entry =>
        entry.indicatorType == payload.indicatorType && entry.indicatorValue == value with
    | some (key, _) =>
      .ok { store with entries := store.entries.modify key (.reactivated payload) }
    | none => .ok { store with entries := store.entries.insert (payload.entry value) }

/-- `update(db, entry_id, payload)`. The columns of the reason and the status are not null. -/
def MonitorStore.update (store : MonitorStore) (entryId : Nat) (payload : BlocklistUpdate) :
    Except BlocklistError MonitorStore :=
  if (store.entries.get? entryId).isNone then .error (.notFound "Blocklist entry not found")
  else if payload.reason = some none ∨ payload.status = some none then .error .integrity
  else .ok { store with entries := store.entries.modify entryId (.patched payload) }

def MonitorStore.delete (store : MonitorStore) (entryId : Nat) :
    Except BlocklistError MonitorStore :=
  if (store.entries.get? entryId).isNone then .error (.notFound "Blocklist entry not found")
  else .ok { store with entries := store.entries.modify entryId .withdrawn }

/-! ## What reads the entries -/

/-- The entries of addresses with status active. -/
def MonitorStore.activeAddresses (store : MonitorStore) : List SocBlocklistEntry :=
  store.entries.select fun entry => entry.indicatorType == .ip && entry.status == .active

/-- `active_blocklist` of `run`. -/
def MonitorStore.activeBlocklist (store : MonitorStore) : List String :=
  store.activeAddresses.map SocBlocklistEntry.indicatorValue

/-- The entry has not expired, as the query of the overview says it. -/
def SocBlocklistEntry.current (now : Instant) (entry : SocBlocklistEntry) : Bool :=
  entry.expiresAt.all fun moment => decide (now < moment)

/-- The entries that the overview counts. -/
def MonitorStore.countedEntries (store : MonitorStore) (now : Instant) :
    List SocBlocklistEntry :=
  store.entries.select fun entry => entry.status == .active && entry.current now

/-! ## Steps -/

/-- A call of the monitor. -/
inductive MonitorCall where
  | create (payload : BlocklistCreate)
  | update (entryId : Nat) (payload : BlocklistUpdate)
  | delete (entryId : Nat)
  | ingest (event : SocEvent)
  | run (payload : DetectionRunRequest) (unhashable : Unhashable) (now : Instant)

/-- The store after a request: one that fails leaves it as it is. -/
def MonitorStore.after (store : MonitorStore) (result : Except BlocklistError MonitorStore) :
    MonitorStore :=
  match result with
  | .ok changed => changed
  | .error _ => store

/-- One call. -/
def MonitorStore.next (store : MonitorStore) : MonitorCall → MonitorStore
  | .create payload => store.after (store.create env payload)
  | .update entryId payload => store.after (store.update entryId payload)
  | .delete entryId => store.after (store.delete entryId)
  | .ingest event => { store with soc := store.soc.next env.toSocRuntime (.ingest event) }
  | .run payload unhashable now =>
    { store with
      soc := store.soc.next env.toSocRuntime
        (.run payload store.activeBlocklist unhashable now) }

/-- The store after calls, with no entries at first. -/
def MonitorStore.reached (soc : SocStore) (calls : List MonitorCall) : MonitorStore :=
  final (MonitorStore.next env) ⟨soc, .empty⟩ calls

/-! ## Values stay stripped -/

theorem strip_validateIndicator {indicatorType : IndicatorType} {text value : String}
    (accepted : validateIndicator env indicatorType text = .ok value) :
    Text.strip value = value := by
  have same : value = Text.strip text := by
    unfold validateIndicator at accepted
    cases indicatorType <;> dsimp only at accepted <;> split at accepted <;> cases accepted <;> rfl
  rw [same, Text.strip_strip]

/-- Every value is stored without spaces around it. -/
def MonitorStore.Stripped (store : MonitorStore) : Prop :=
  store.entries.Each fun _ entry => Text.strip entry.indicatorValue = entry.indicatorValue

/-- What a request does to the entries: it adds one with a stripped value, or it changes one
whose value it keeps. -/
inductive EntryWrite (before after : Table SocBlocklistEntry) : Prop where
  | add (entry : SocBlocklistEntry) (stripped : Text.strip entry.indicatorValue =
      entry.indicatorValue) (written : after = before.insert entry)
  | change (key : Nat) (changed : SocBlocklistEntry → SocBlocklistEntry)
      (kept : ∀ entry, (changed entry).indicatorValue = entry.indicatorValue)
      (written : after = before.modify key changed)

theorem entryWrite_create {store changed : MonitorStore} {payload : BlocklistCreate}
    (created : store.create env payload = .ok changed) :
    EntryWrite store.entries changed.entries := by
  unfold MonitorStore.create at created
  obtain ⟨value, accepted, rest⟩ := bind_eq_ok_iff.mp created
  split at rest
  · cases rest
  · split at rest
    · cases rest
    · split at rest
      · rename_i key _ _
        cases rest
        exact .change key (.reactivated payload) (fun _ => rfl) rfl
      · cases rest
        exact .add _ (strip_validateIndicator env accepted) rfl

theorem entryWrite_update {store changed : MonitorStore} {entryId : Nat}
    {payload : BlocklistUpdate} (updated : store.update entryId payload = .ok changed) :
    EntryWrite store.entries changed.entries := by
  unfold MonitorStore.update at updated
  split at updated
  · cases updated
  · split at updated
    · cases updated
    · cases updated
      exact .change entryId (.patched payload) (fun _ => rfl) rfl

theorem entryWrite_delete {store changed : MonitorStore} {entryId : Nat}
    (deleted : store.delete entryId = .ok changed) :
    EntryWrite store.entries changed.entries := by
  unfold MonitorStore.delete at deleted
  split at deleted
  · cases deleted
  · cases deleted
    exact .change entryId .withdrawn (fun _ => rfl) rfl

theorem MonitorStore.Stripped.write {store changed : MonitorStore} (stripped : store.Stripped)
    (write : EntryWrite store.entries changed.entries) : changed.Stripped := by
  unfold MonitorStore.Stripped
  cases write with
  | add entry new written =>
    rw [written]
    exact Table.Each.insert stripped new
  | change key changed kept written =>
    rw [written]
    refine Table.Each.modify stripped fun entry _ old => ?_
    rw [kept]
    exact old

theorem MonitorStore.Stripped.after {store : MonitorStore} (stripped : store.Stripped)
    {result : Except BlocklistError MonitorStore}
    (write : ∀ changed, result = .ok changed → EntryWrite store.entries changed.entries) :
    (store.after result).Stripped := by
  cases result with
  | ok changed => exact stripped.write (write changed rfl)
  | error _ => exact stripped

theorem MonitorStore.Stripped.next {store : MonitorStore} (stripped : store.Stripped)
    (call : MonitorCall) : (store.next env call).Stripped := by
  cases call with
  | create payload => exact stripped.after fun _ created => entryWrite_create env created
  | update entryId payload => exact stripped.after fun _ updated => entryWrite_update updated
  | delete entryId => exact stripped.after fun _ deleted => entryWrite_delete deleted
  | ingest event => exact stripped
  | run payload now => exact stripped

/-- Every store that calls reach holds stripped values. -/
theorem stripped_reached (soc : SocStore) (calls : List MonitorCall) :
    (MonitorStore.reached env soc calls).Stripped := by
  have initially : MonitorStore.Stripped ⟨soc, .empty⟩ := Table.Each.empty
  refine invariant_final (MonitorStore.next env) MonitorStore.Stripped (fun _ => True) ?_
    initially fun _ _ => trivial
  intro store call stripped _
  exact stripped.next env call

/-! ## Addresses -/

/-- An address as Python writes it. -/
def spelled (address : SpelledAddress) : String := String.ofList address.compressed

/-- The address that an entry denotes. -/
def SocBlocklistEntry.address? (entry : SocBlocklistEntry) : Option SpelledAddress :=
  ipAddress entry.indicatorValue.toList

/-- The address that an event comes from. -/
def SocEvent.sourceAddress? (event : SocEvent) : Option SpelledAddress :=
  event.sourceIp.bind fun text => ipAddress text.toList

/-- The source of the event is what `valid_ip` returned. -/
def SocEvent.FromLine (event : SocEvent) : Prop := ∃ text, event.sourceIp = canonicalIp text

theorem ipAddress_spelled {text : List Char} {address : SpelledAddress}
    (read : ipAddress text = some address) : ipAddress (spelled address).toList = some address := by
  rw [spelled, String.toList_ofList]
  exact ipAddress_compressed (wellFormed_of_ipAddress read)

theorem SocEvent.FromLine.cases {event : SocEvent} (line : event.FromLine) :
    event.sourceIp = none ∨ ∃ address, event.sourceIp = some (spelled address) ∧
      event.sourceAddress? = some address := by
  obtain ⟨text, same⟩ := line
  rw [canonicalIp] at same
  cases read : ipAddress (Text.strip text).toList with
  | none =>
    rw [read] at same
    exact .inl same
  | some address =>
    rw [read] at same
    refine .inr ⟨address, same, ?_⟩
    rw [SocEvent.sourceAddress?, same]
    exact ipAddress_spelled read

/-! ## Where the detection and the overview agree -/

/-- An active entry that has not expired denotes the address of the event. -/
def MonitorStore.Blocks (store : MonitorStore) (now : Instant) (event : SocEvent) : Prop :=
  ∃ entry ∈ store.countedEntries now, entry.indicatorType = .ip ∧
    ∃ address, entry.address? = some address ∧ event.sourceAddress? = some address

/-- The entries of addresses are settled: an expired one in the spelling of Python has a
sibling that is counted, and a counted one has an active sibling in that spelling. -/
structure MonitorStore.Settled (store : MonitorStore) (now : Instant) : Prop where
  lapsed : ∀ entry ∈ store.activeAddresses, ∀ address, entry.address? = some address →
    entry.indicatorValue = spelled address → entry.current now = false →
    ∃ other ∈ store.activeAddresses, other.current now = true ∧ other.address? = some address
  respelled : ∀ entry ∈ store.activeAddresses, entry.current now = true →
    ∀ address, entry.address? = some address →
    ∃ other ∈ store.activeAddresses, other.indicatorValue = spelled address

section Agreement

variable {env} {store : MonitorStore} {now : Instant} {event : SocEvent}

theorem blocks_iff : store.Blocks now event ↔ ∃ entry ∈ store.activeAddresses,
    entry.current now = true ∧
      ∃ address, entry.address? = some address ∧ event.sourceAddress? = some address := by
  unfold MonitorStore.Blocks MonitorStore.activeAddresses MonitorStore.countedEntries
  simp only [Table.mem_select_iff, Bool.and_eq_true, beq_iff_eq]
  constructor
  · rintro ⟨entry, ⟨stored, active, current⟩, kind, found⟩
    exact ⟨entry, ⟨stored, kind, active⟩, current, found⟩
  · rintro ⟨entry, ⟨stored, kind, active⟩, current, found⟩
    exact ⟨entry, ⟨stored, active, current⟩, kind, found⟩

theorem accepts_activeBlocklist_iff {rule : SocDetectionRule}
    (blocks : rule.ruleType = .blocklist) :
    rule.accepts store.activeBlocklist event = true ↔
      ∃ entry ∈ store.activeAddresses, event.sourceIp = some entry.indicatorValue := by
  unfold SocDetectionRule.accepts MonitorStore.activeBlocklist
  rw [blocks]
  cases event.sourceIp with
  | none => simp
  | some text => simp [eq_comm]

/-- An event of which nothing is known but an address. -/
def addressEvent (sourceIp : Option String) : SocEvent :=
  ⟨0, none, 0, 0, "unknown", none, none, .info, sourceIp, none, none, none, none, none, none, none,
    "", "", none, 0⟩

theorem exists_fromLine {entry : SocBlocklistEntry} {address : SpelledAddress}
    (stripped : Text.strip entry.indicatorValue = entry.indicatorValue)
    (denoted : entry.address? = some address) :
    ∃ event : SocEvent, event.FromLine ∧ event.sourceIp = some (spelled address) ∧
      event.sourceAddress? = some address := by
  have same : canonicalIp entry.indicatorValue = some (spelled address) := by
    rw [SocBlocklistEntry.address?] at denoted
    rw [canonicalIp, stripped, denoted, Option.map_some, spelled]
  refine ⟨addressEvent (some (spelled address)), ⟨entry.indicatorValue, same.symm⟩, rfl, ?_⟩
  rw [SocEvent.sourceAddress?, addressEvent, Option.bind_some]
  exact ipAddress_spelled denoted

end Agreement

/-- **The detection agrees with the overview** in a store that calls reach exactly if its
entries are settled. -/
theorem blocklist_agrees_iff (soc : SocStore) (calls : List MonitorCall) (now : Instant)
    {rule : SocDetectionRule} (blocks : rule.ruleType = .blocklist) :
    (∀ event : SocEvent, event.FromLine →
      (rule.accepts (MonitorStore.reached env soc calls).activeBlocklist event = true ↔
        (MonitorStore.reached env soc calls).Blocks now event)) ↔
      (MonitorStore.reached env soc calls).Settled now := by
  have stripped := stripped_reached env soc calls
  generalize MonitorStore.reached env soc calls = store at stripped
  have trimmed : ∀ entry ∈ store.activeAddresses,
      Text.strip entry.indicatorValue = entry.indicatorValue := by
    intro entry member
    obtain ⟨⟨key, stored⟩, -⟩ := Table.mem_select_iff.mp member
    exact stripped key entry stored
  constructor
  · intro agrees
    constructor
    · intro entry member address denoted canonical _
      obtain ⟨event, line, source, comes⟩ := exists_fromLine (trimmed entry member) denoted
      have accepted := (accepts_activeBlocklist_iff blocks).mpr
        ⟨entry, member, source.trans (congrArg some canonical.symm)⟩
      obtain ⟨other, inside, current, found, names, same⟩ :=
        blocks_iff.mp ((agrees event line).mp accepted)
      rw [comes] at same
      exact ⟨other, inside, current, names.trans same.symm⟩
    · intro entry member current address denoted
      obtain ⟨event, line, source, comes⟩ := exists_fromLine (trimmed entry member) denoted
      have blocked := blocks_iff.mpr ⟨entry, member, current, address, denoted, comes⟩
      obtain ⟨other, inside, same⟩ :=
        (accepts_activeBlocklist_iff blocks).mp ((agrees event line).mpr blocked)
      rw [source] at same
      exact ⟨other, inside, (Option.some.inj same).symm⟩
  · intro settled event line
    rw [accepts_activeBlocklist_iff blocks, blocks_iff]
    rcases line.cases with absent | ⟨address, source, comes⟩
    · constructor
      · rintro ⟨entry, -, same⟩
        rw [absent] at same
        cases same
      · rintro ⟨entry, -, -, address, -, comes⟩
        rw [SocEvent.sourceAddress?, absent] at comes
        cases comes
    · constructor
      · rintro ⟨entry, member, same⟩
        rw [source] at same
        have canonical := (Option.some.inj same).symm
        have denoted : entry.address? = some address := by
          rw [SocBlocklistEntry.address?, canonical]
          rw [SocEvent.sourceAddress?, source] at comes
          exact comes
        cases current : entry.current now with
        | true => exact ⟨entry, member, current, address, denoted, comes⟩
        | false =>
          obtain ⟨other, inside, counted, names⟩ :=
            settled.lapsed entry member address denoted canonical current
          exact ⟨other, inside, counted, address, names, comes⟩
      · rintro ⟨entry, member, current, found, denoted, same⟩
        rw [comes] at same
        cases same
        obtain ⟨other, inside, canonical⟩ :=
          settled.respelled entry member current address denoted
        exact ⟨other, inside, source.trans (congrArg some canonical.symm)⟩

/-! ## An address in another spelling -/

/-- Lower case of ASCII, and digests that are the texts. -/
def asciiRuntime : MonitorRuntime where
  sha256 text := text
  lower text := String.ofList (text.toList.map Char.toLower)
  object _ _ := none
  isAlnum text := text != "" && text.toList.all Char.isAlphanum

/-- The default rule about the blocklist. -/
def blocklistRule : SocDetectionRule where
  ruleCode := "SOC-007"
  name := "Locally blocklisted indicator activity"
  description := "An event matches the application-only simulated blocklist."
  ruleType := .blocklist
  enabled := true
  severity := .high
  confidence := .high
  windowSeconds := 300
  threshold := 1
  groupBy := .sourceIp
  conditions := []
  window_pos := by decide
  threshold_pos := by decide
  code_clear := by decide

def emptySoc : SocStore := ⟨.empty, .empty, .empty, .empty⟩

/-- An address in the spelling of an analyst. -/
def respelledCall : MonitorCall :=
  .create ⟨.ip, "2001:0DB8::1", "Seen in a report", none, none⟩

def respelledEvent : SocEvent := addressEvent (canonicalIp "2001:0DB8::1")

/-- That address with an expiry that has passed, in the spelling of Python. -/
def expiredCall : MonitorCall :=
  .create ⟨.ip, "2001:db8::1", "Seen again", none, some (-1)⟩

theorem blocklist_agrees_with_sibling :
    (MonitorStore.reached asciiRuntime emptySoc [respelledCall, expiredCall]).Settled 0 ∧
    ∀ event : SocEvent, event.FromLine →
      (blocklistRule.accepts (MonitorStore.reached asciiRuntime emptySoc
          [respelledCall, expiredCall]).activeBlocklist event = true ↔
        (MonitorStore.reached asciiRuntime emptySoc [respelledCall, expiredCall]).Blocks 0
          event) := by
  rw [blocklist_agrees_iff asciiRuntime emptySoc [respelledCall, expiredCall] 0 rfl, and_self]
  have active : (MonitorStore.reached asciiRuntime emptySoc
      [respelledCall, expiredCall]).activeAddresses =
      [⟨.ip, "2001:0DB8::1", "Seen in a report", none, .active, none⟩,
        ⟨.ip, "2001:db8::1", "Seen again", none, .active, some (-1)⟩] := by
    decide +kernel
  constructor <;> rw [active]
  · decide +kernel
  · decide +kernel

theorem respelled_address_not_blocklisted :
    ¬ (∀ event : SocEvent, event.FromLine →
      (blocklistRule.accepts
          (MonitorStore.reached asciiRuntime emptySoc [respelledCall]).activeBlocklist event =
            true ↔
        (MonitorStore.reached asciiRuntime emptySoc [respelledCall]).Blocks 0 event)) := by
  intro agrees
  have same := agrees respelledEvent ⟨"2001:0DB8::1", rfl⟩
  have missed : blocklistRule.accepts (MonitorStore.reached asciiRuntime emptySoc
      [respelledCall]).activeBlocklist respelledEvent = false := by decide +kernel
  rw [missed] at same
  have blocked : (MonitorStore.reached asciiRuntime emptySoc [respelledCall]).Blocks 0
      respelledEvent := by
    rw [blocks_iff]
    refine ⟨⟨.ip, "2001:0DB8::1", "Seen in a report", none, .active, none⟩, ?_, rfl,
      .v6 [0x2001, 0xdb8, 0, 0, 0, 0, 0, 1] none, ?_, ?_⟩ <;> decide +kernel
  exact Bool.false_ne_true (same.mpr blocked)

end ThreatScope.SocMonitor
