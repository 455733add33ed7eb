import ThreatScope.AccessControl.AuditLog
import ThreatScope.Library.HashChain
import ThreatScope.Library.Runs

/-!
# The audit chain binds its events

The hashed text of an event determines its nineteen hashed columns
(`hashedText_injective`), so the audit log is a hash chain, and `verify_integrity` accepts
exactly the sound ones (`validChain_iff_sound`). Events that `append_event` adds keep the
chain sound. The binding of a hash chain by its last digest then gives the binding of the
log (`auditChain_binds`): the last `event_hash` of an accepted log fixes every column of
every event but its key.
-/

set_option autoImplicit false

namespace ThreatScope.AccessControl

open Library

/-! ## The hashed text -/

theorem optionalText_injective : Function.Injective optionalText := by
  rintro (_ | first) (_ | second) same
  · rfl
  · cases same
  · cases same
  · cases same
    rfl

theorem optionalNumber_injective : Function.Injective optionalNumber := by
  rintro (_ | first) (_ | second) same
  · rfl
  · cases same
  · cases same
  · cases same
    rfl

@[simp] theorem optionalText_inj {first second : Option String} :
    optionalText first = optionalText second ↔ first = second :=
  optionalText_injective.eq_iff

@[simp] theorem optionalNumber_inj {first second : Option Int} :
    optionalNumber first = optionalNumber second ↔ first = second :=
  optionalNumber_injective.eq_iff

@[simp] theorem isScalar_optionalText (text : Option String) : IsScalar (optionalText text) := by
  cases text <;> trivial

@[simp] theorem isScalar_optionalNumber (number : Option Int) :
    IsScalar (optionalNumber number) := by
  cases number <;> trivial

theorem hashFields_injective : Function.Injective hashFields := by
  intro first second same
  cases first
  cases second
  simpa [hashFields, DateTime.isoformat_injective.eq_iff] using same

theorem isScalar_of_mem_hashFields (record : AuditRecord) :
    ∀ field ∈ hashFields record, IsScalar field.2 := by
  simp [hashFields]

theorem keys_hashFields (first second : AuditRecord) :
    (hashFields first).map Prod.fst = (hashFields second).map Prod.fst := rfl

theorem nodup_keys_hashFields (record : AuditRecord) :
    ((hashFields record).map Prod.fst).Nodup := by
  simp [hashFields]

section Chain

variable (py : Interpreter) (sha256 : String → String)

/-- **The hashed text determines the hashed columns.** -/
theorem hashedText_injective : Function.Injective (hashedText py) := by
  intro first second same
  apply hashFields_injective
  exact canonical_injective py (keys_hashFields first second) (nodup_keys_hashFields first)
    (isScalar_of_mem_hashFields first) (isScalar_of_mem_hashFields second) same

/-- The audit log as a hash chain. -/
def auditChain : HashChain SecurityAuditEvent String String where
  hash := sha256
  payload event := hashedText py event.toAuditRecord
  number event := event.sequenceNumber
  prior event := event.previousEventHash
  digest event := event.eventHash
  bound first second same := by
    have record := hashedText_injective py same
    exact ⟨congrArg AuditRecord.sequenceNumber record,
      congrArg AuditRecord.previousEventHash record⟩

theorem auditChain_hash (event : SecurityAuditEvent) :
    (auditChain py sha256).hash ((auditChain py sha256).payload event) =
      hashPayload py sha256 event.toAuditRecord := rfl

/-! ## The verifier accepts the sound chains -/

theorem validChain_verifyFrom_iff (verifiedAt : String) (examined : Nat)
    (previousHash : Option String) (events : List SecurityAuditEvent) :
    (verifyFrom py sha256 verifiedAt examined previousHash events).validChain = true ↔
      (auditChain py sha256).SoundFrom examined previousHash events := by
  induction events generalizing examined previousHash with
  | nil => simp [verifyFrom, HashChain.SoundFrom]
  | cons event rest ih =>
    rw [verifyFrom, HashChain.SoundFrom]
    split
    · rename_i differs
      simp only [Bool.false_eq_true, false_iff, not_and]
      rintro ⟨number, prior, digest⟩
      rcases differs with wrong | wrong | wrong
      · exact absurd number wrong
      · exact absurd prior wrong
      · exact absurd digest wrong
    · rename_i agrees
      simp only [not_or, not_not] at agrees
      rw [ih]
      exact ⟨fun sound => ⟨agrees, sound⟩, fun sound => sound.2⟩

/-- **`verify_integrity` accepts exactly the sound chains.** -/
theorem validChain_iff_sound (now : DateTime) (events : List SecurityAuditEvent) :
    (verifyIntegrity py sha256 now events).validChain = true ↔
      (auditChain py sha256).Sound (bySequence events) :=
  validChain_verifyFrom_iff py sha256 _ 0 none _

/-! ## Appending keeps the chain sound -/

theorem bySequence_of_sound {events : List SecurityAuditEvent}
    (sound : (auditChain py sha256).Sound events) : bySequence events = events :=
  List.Pairwise.insertionSort_eq (HashChain.pairwise_of_soundFrom sound).1

theorem newEvent_follows {events : List SecurityAuditEvent} (call : AuditCall)
    (sound : (auditChain py sha256).Sound events) :
    (auditChain py sha256).Follows events.length ((auditChain py sha256).last events)
      (newEvent py sha256 events call) := by
  have ordered := bySequence_of_sound py sha256 sound
  refine ⟨?_, ?_, rfl⟩
  · show Option.elim (bySequence events).getLast? 1 _ = _
    rw [ordered]
    cases events using List.reverseRecOn with
    | nil => rfl
    | append_singleton events event =>
      have number := ((HashChain.sound_concat _ events event).mp sound).2.1
      rw [List.getLast?_concat, List.length_append]
      show event.sequenceNumber + 1 = _
      rw [show event.sequenceNumber = events.length + 1 from number]
      rfl
  · show (bySequence events).getLast?.map _ = _
    rw [ordered]
    rfl

theorem auditNext_sound {events : List SecurityAuditEvent} (call : AuditCall)
    (sound : (auditChain py sha256).Sound events) :
    (auditChain py sha256).Sound (auditNext py sha256 events call) := by
  unfold auditNext appendEvent
  simp only
  split
  · exact (HashChain.sound_concat _ _ _).mpr ⟨sound, newEvent_follows py sha256 call sound⟩
  · exact sound

/-- A log that only `append_event` wrote. -/
def auditLog (calls : List AuditCall) : List SecurityAuditEvent :=
  final (auditNext py sha256) [] calls

/-- **Every log that `append_event` alone wrote is a sound chain.** -/
theorem auditLog_sound (calls : List AuditCall) :
    (auditChain py sha256).Sound (auditLog py sha256 calls) := by
  have preserved (events : List SecurityAuditEvent) (call : AuditCall)
      (sound : (auditChain py sha256).Sound events) (_ : True) :=
    auditNext_sound py sha256 call sound
  have empty : (auditChain py sha256).Sound [] := trivial
  exact invariant_final _ _ (fun _ => True) preserved empty fun _ _ => trivial

/-! ## What the last hash binds -/

/-- The `event_hash` of the last event. -/
def lastHash (events : List SecurityAuditEvent) : Option String :=
  (bySequence events).getLast?.map fun event => event.eventHash

/-- The hashed columns of the events, in order. -/
def hashedColumns (events : List SecurityAuditEvent) : List AuditRecord :=
  (bySequence events).map fun event => event.toAuditRecord

/-- All columns of the events but the key, in order. -/
def columns (events : List SecurityAuditEvent) : List (AuditRecord × String) :=
  (bySequence events).map fun event => (event.toAuditRecord, event.eventHash)

section Binding

variable {py sha256} {first second : List SecurityAuditEvent}

theorem collisionFree_bySequence (free : (auditChain py sha256).CollisionFree first second) :
    (auditChain py sha256).CollisionFree (bySequence first) (bySequence second) := by
  intro entry member other inside
  exact free entry ((List.mem_insertionSort _).mp member) other
    ((List.mem_insertionSort _).mp inside)

theorem hashedColumns_eq_of_payloads
    (same : (bySequence first).map (auditChain py sha256).payload =
      (bySequence second).map (auditChain py sha256).payload) :
    hashedColumns first = hashedColumns second := by
  have read (events : List SecurityAuditEvent) :
      (bySequence events).map (auditChain py sha256).payload =
        (hashedColumns events).map (hashedText py) := by
    rw [hashedColumns, List.map_map]
    rfl
  rw [read, read] at same
  exact (hashedText_injective py).list_map same

theorem payloads_eq_of_lastHash (free : (auditChain py sha256).CollisionFree first second)
    (sound : (auditChain py sha256).Sound (bySequence first))
    (also : (auditChain py sha256).Sound (bySequence second))
    (same : lastHash first = lastHash second) :
    (bySequence first).map (auditChain py sha256).payload =
      (bySequence second).map (auditChain py sha256).payload := by
  have apart := collisionFree_bySequence free
  have lengths := HashChain.length_eq_of_last apart sound also same
  exact HashChain.payloads_eq_of_last apart sound also lengths same

theorem columns_eq_of_lastHash (free : (auditChain py sha256).CollisionFree first second)
    (sound : (auditChain py sha256).Sound (bySequence first))
    (also : (auditChain py sha256).Sound (bySequence second))
    (same : lastHash first = lastHash second) : columns first = columns second := by
  have payloads := payloads_eq_of_lastHash free sound also same
  have records : hashedColumns first = hashedColumns second :=
    hashedColumns_eq_of_payloads payloads
  have digests := HashChain.digests_eq_of_payloads sound also payloads
  have zipped (events : List SecurityAuditEvent) : columns events =
      (hashedColumns events).zip ((bySequence events).map (auditChain py sha256).digest) := by
    rw [hashedColumns, List.zip_map', columns]
    rfl
  rw [zipped first, zipped second, records, digests]

end Binding

/-- **The last hash of an audit log binds its events.** Two accepted logs of the same
length with the same last hash have the same hashed columns; a log that `append_event`
alone wrote is accepted; and a log that ends in the same hash but differs from it
anywhere, in number, order or content, is reported. -/
theorem auditChain_binds (now later : DateTime) :
    (∀ first second : List SecurityAuditEvent,
      (auditChain py sha256).CollisionFree first second →
      (verifyIntegrity py sha256 now first).validChain = true →
      (verifyIntegrity py sha256 later second).validChain = true →
      first.length = second.length → lastHash first = lastHash second →
        hashedColumns first = hashedColumns second) ∧
    (∀ calls : List AuditCall,
      (verifyIntegrity py sha256 now (auditLog py sha256 calls)).validChain = true) ∧
    (∀ (calls : List AuditCall) (altered : List SecurityAuditEvent),
      (auditChain py sha256).CollisionFree (auditLog py sha256 calls) altered →
      lastHash altered = lastHash (auditLog py sha256 calls) →
      columns altered ≠ columns (auditLog py sha256 calls) →
        (verifyIntegrity py sha256 later altered).validChain = false) := by
  refine ⟨?_, ?_, ?_⟩
  · intro first second free accepted also length same
    rw [validChain_iff_sound] at accepted also
    apply hashedColumns_eq_of_payloads
    exact payloads_eq_of_lastHash free accepted also same
  · intro calls
    have sound := auditLog_sound py sha256 calls
    rw [validChain_iff_sound, bySequence_of_sound py sha256 sound]
    exact sound
  · intro calls altered free same differs
    have sound := auditLog_sound py sha256 calls
    rw [← Bool.not_eq_true, validChain_iff_sound]
    intro accepted
    rw [← bySequence_of_sound py sha256 sound] at sound
    exact differs (columns_eq_of_lastHash free sound accepted same.symm).symm

end Chain

/-! ## A log of two events -/

/-- A runtime without tables. -/
def plainRuntime : Interpreter where
  foldTable c := [c]
  parseInt _ := none
  repr _ := "object"
  floatText _ := "0.0"

/-- A login, just after noon. -/
def loginCall : AuditCall where
  eventType := "login_success"
  action := "login"
  requestId := "r1"
  outcome := "success"
  actor := none
  resourceType := none
  resourceId := none
  routeTemplate := some "/api/auth/login"
  requestMethod := some "POST"
  statusCode := some 200
  reasonCode := none
  metadata := none
  clientIpHash := none
  userAgentSummary := none
  directory := ⟨.empty, [], .empty, []⟩
  now := ⟨2026, 1, 2, 12, 0, 0, 250, by decide, by decide, by decide, by decide, by decide,
    by decide, by decide⟩

/-- The logout that follows it. -/
def logoutCall : AuditCall :=
  { loginCall with eventType := "logout", action := "logout", requestId := "r2" }

def loginEvent : SecurityAuditEvent :=
  { newRecord plainRuntime none loginCall with
    id := 1
    eventHash := "2761a37f22b6b07f68f800ce006c38038d2da13c9906bc7fd70280fb8da8556b" }

def logoutEvent : SecurityAuditEvent :=
  { newRecord plainRuntime (some loginEvent) logoutCall with
    id := 2
    eventHash := "107adfb85235f091dcb7fbdf2a76879466600c62f170a792f69fe3554b8f048c" }

/-- The login with another action, hashed again. -/
def alteredEvent : SecurityAuditEvent :=
  { loginEvent with
    action := "logout"
    eventHash := "0a7f02e3b5ddc50d8b91c7d4bbd236a0cb5bd5d00e4c9a43e2df437fce8ca622" }

/-- The digests of the texts of the three events. -/
def eventDigests (text : String) : String :=
  if text = hashedText plainRuntime loginEvent.toAuditRecord then loginEvent.eventHash
  else if text = hashedText plainRuntime logoutEvent.toAuditRecord then logoutEvent.eventHash
  else if text = hashedText plainRuntime alteredEvent.toAuditRecord then alteredEvent.eventHash
  else ""

def knownEvents : List SecurityAuditEvent := [loginEvent, logoutEvent, alteredEvent]

theorem knownEvents_facts :
    (logoutEvent.toAuditRecord ≠ loginEvent.toAuditRecord ∧
      alteredEvent.toAuditRecord ≠ loginEvent.toAuditRecord ∧
      alteredEvent.toAuditRecord ≠ logoutEvent.toAuditRecord) ∧
    (knownEvents.map fun event => event.eventHash).Nodup ∧
    isUnique [loginEvent] logoutEvent = true := by
  decide +kernel

theorem hashPayload_knownEvents : ∀ event ∈ knownEvents,
    hashPayload plainRuntime eventDigests event.toAuditRecord = event.eventHash := by
  have logout := (hashedText_injective plainRuntime).ne knownEvents_facts.1.1
  have altered := (hashedText_injective plainRuntime).ne knownEvents_facts.1.2.1
  have apart := (hashedText_injective plainRuntime).ne knownEvents_facts.1.2.2
  intro event member
  simp only [knownEvents, List.mem_cons, List.not_mem_nil, or_false] at member
  rcases member with rfl | rfl | rfl
  · simp only [hashPayload, eventDigests, if_true]
  · simp only [hashPayload, eventDigests, logout, if_false, if_true]
  · simp only [hashPayload, eventDigests, altered, apart, if_false, if_true]

theorem collisionFree_knownEvents {first second : List SecurityAuditEvent}
    (known : first ⊆ knownEvents) (also : second ⊆ knownEvents) :
    (auditChain plainRuntime eventDigests).CollisionFree first second := by
  intro event member other inside same
  rw [auditChain_hash, auditChain_hash, hashPayload_knownEvents event (known member),
    hashPayload_knownEvents other (also inside)] at same
  exact congrArg (hashedText plainRuntime)
    (congrArg _ (List.inj_on_of_nodup_map knownEvents_facts.2.1 (known member) (also inside) same))

theorem newEvent_login : newEvent plainRuntime eventDigests [] loginCall = loginEvent := by
  have digest := hashPayload_knownEvents loginEvent (by simp [knownEvents])
  rw [newEvent]
  exact congrArg (SecurityAuditEvent.mk _ 1) digest

theorem newEvent_logout :
    newEvent plainRuntime eventDigests [loginEvent] logoutCall = logoutEvent := by
  have digest := hashPayload_knownEvents logoutEvent (by simp [knownEvents])
  rw [newEvent]
  exact congrArg (SecurityAuditEvent.mk _ 2) digest

theorem auditLog_login :
    auditLog plainRuntime eventDigests [loginCall, logoutCall] = [loginEvent, logoutEvent] := by
  have first : auditNext plainRuntime eventDigests [] loginCall = [loginEvent] := by
    simp [auditNext, appendEvent, newEvent_login, isUnique]
  have second : auditNext plainRuntime eventDigests [loginEvent] logoutCall =
      [loginEvent, logoutEvent] := by
    simp [auditNext, appendEvent, newEvent_logout, knownEvents_facts]
  rw [auditLog, final_cons, final_cons, final_nil, first, second]

/-- The log of the two calls binds its events: the log that stores them in the other order
has the same columns, and the log with another first action is reported. -/
theorem auditChain_binds_login :
    hashedColumns [loginEvent, logoutEvent] = hashedColumns [logoutEvent, loginEvent] ∧
      (verifyIntegrity plainRuntime eventDigests loginCall.now
        [alteredEvent, logoutEvent]).validChain = false := by
  obtain ⟨bound, accepted, reported⟩ :=
    auditChain_binds plainRuntime eventDigests loginCall.now loginCall.now
  have log := auditLog_login
  have valid := accepted [loginCall, logoutCall]
  rw [log] at valid
  have sorted : bySequence [logoutEvent, loginEvent] = bySequence [loginEvent, logoutEvent] := rfl
  have free : (auditChain plainRuntime eventDigests).CollisionFree [loginEvent, logoutEvent]
      [logoutEvent, loginEvent] :=
    collisionFree_knownEvents (by simp [knownEvents]) (by simp [knownEvents])
  constructor
  · apply bound _ _ free valid
    · rw [verifyIntegrity, sorted]
      exact valid
    · rfl
    · rw [lastHash, lastHash, sorted]
  · apply reported [loginCall, logoutCall] [alteredEvent, logoutEvent]
    · rw [log]
      exact collisionFree_knownEvents (by simp [knownEvents]) (by simp [knownEvents])
    · rw [log]
      rfl
    · rw [log]
      decide +kernel

end ThreatScope.AccessControl
