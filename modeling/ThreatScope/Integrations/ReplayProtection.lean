import ThreatScope.Integrations.Inbound

/-!
# Replay protection of inbound webhooks

A signed request can be sent again by anyone who has seen it. The hub recognizes the
repetition by the event identifier, which the signature does not cover: with another
identifier the same timestamp, body and signature are accepted again (`replayed_request`).

Repetitions that keep the identifier are refused for good (`accepted_once`), also after
the nonce has expired and was removed. What refuses them then is the stored event: an
endpoint keeps one event for each identifier, and by the time retention may delete it the
timestamp is too old. The run lemma carries this as `Remembered`.
-/

set_option autoImplicit false

namespace ThreatScope.Integrations

open Library AccessControl

variable {Ciphertext : Type}

/-! ## What an endpoint remembers -/

/-- An event of the endpoint with the identifier, not touched before a time. -/
def InboundHub.Remembers (hub : InboundHub Ciphertext) (endpointId : Nat) (externalId : String)
    (since : Instant) : Prop :=
  ∃ key event, hub.inboundEvents.get? key = some event ∧ event.endpointId = endpointId ∧
    event.externalEventId = externalId ∧ since ≤ event.updatedAt

section Steps

variable {env : HubPlatform Ciphertext} {hub after : InboundHub Ciphertext} {endpointId : Nat}
  {externalId : String} {since now : Instant}

theorem hasEvent_of_remembers (remembers : hub.Remembers endpointId externalId since) :
    hub.hasEvent endpointId externalId = true := by
  obtain ⟨key, event, stored, endpoint, identifier, -⟩ := remembers
  refine List.any_eq_true.mpr ⟨(key, event), (Table.get?_eq_some_iff _ _ _).mp stored, ?_⟩
  simp [endpoint, identifier]

theorem InboundHub.Remembers.of_same (remembers : hub.Remembers endpointId externalId since)
    (same : after.inboundEvents = hub.inboundEvents) :
    after.Remembers endpointId externalId since := by
  rw [InboundHub.Remembers, same]
  exact remembers

theorem InboundHub.Remembers.insert (remembers : hub.Remembers endpointId externalId since)
    {event : ConnectorInboundEvent} (added : after.inboundEvents = hub.inboundEvents.insert event) :
    after.Remembers endpointId externalId since := by
  obtain ⟨key, old, stored, rest⟩ := remembers
  refine ⟨key, old, ?_, rest⟩
  rw [added, Table.get?_insert_of_ne _ _ (Table.lt_nextKey_of_get? stored).ne]
  exact stored

theorem InboundHub.remembers_of_added {event : ConnectorInboundEvent}
    (added : after.inboundEvents = hub.inboundEvents.insert event) :
    after.Remembers event.endpointId event.externalEventId event.updatedAt := by
  refine ⟨hub.inboundEvents.nextKey, event, ?_, rfl, rfl, le_refl _⟩
  rw [added, Table.get?_insert_nextKey]

theorem InboundHub.Remembers.modify (remembers : hub.Remembers endpointId externalId since)
    {decided : Nat} {status : InboundStatus} (past : since ≤ now)
    (changed : after.inboundEvents = hub.inboundEvents.modify decided fun event =>
      { event with status, updatedAt := now }) :
    after.Remembers endpointId externalId since := by
  obtain ⟨key, event, stored, endpoint, identifier, touched⟩ := remembers
  rw [InboundHub.Remembers, changed]
  by_cases same : key = decided
  · subst same
    refine ⟨key, { event with status, updatedAt := now }, ?_, endpoint, identifier, past⟩
    rw [Table.get?_modify_self, stored]
    rfl
  · refine ⟨key, event, ?_, endpoint, identifier, touched⟩
    rw [Table.get?_modify_of_ne _ _ same]
    exact stored

theorem InboundHub.Remembers.removeRejected
    (remembers : hub.Remembers endpointId externalId since) (chosen : List Nat)
    (retentionDays : RetentionDays) :
    (hub.removeRejected chosen retentionDays now).Remembers endpointId externalId since ∨
      since + days 1 < now := by
  obtain ⟨key, event, stored, endpoint, identifier, touched⟩ := remembers
  by_cases removed : (chosen.contains key && decide (event.status = .rejected) &&
      decide (event.updatedAt < now - days retentionDays)) = true
  · right
    simp only [Bool.and_eq_true, decide_eq_true_eq] at removed
    have old : event.updatedAt < now - days retentionDays := removed.2
    have least : days 1 ≤ days retentionDays := by
      have positive := retentionDays.2
      simp only [days]
      omega
    linarith
  · left
    refine ⟨key, event, ?_, endpoint, identifier, touched⟩
    rw [InboundHub.removeRejected, Table.get?_deleteWhere, stored, Option.filter_some_pos]
    simp only [Bool.not_eq_true] at removed
    rw [removed]
    rfl

theorem inboundEvents_setCredential {connectorId actorId draw : Nat} {credentialType : String}
    {secretPayload : Dict} {rotate : Bool}
    (done : setCredential env hub connectorId credentialType secretPayload actorId rotate now
      draw = .ok after) : after.inboundEvents = hub.inboundEvents := by
  obtain ⟨-, -, -, -, -, -, -, -, same⟩ := setCredential_ok done
  rw [same]

theorem inboundEvents_removeCredential {connectorId draw : Nat} {token : String}
    (done : removeCredential env hub connectorId now draw token = .ok after) :
    after.inboundEvents = hub.inboundEvents := by
  rw [(removeCredential_ok done).2]

theorem inboundEvents_createInboundEndpoint {payload : EndpointWrite} {actorId draw : Nat}
    {actorIsAdmin : Bool}
    (done : createInboundEndpoint env hub payload actorId actorIsAdmin now draw =
      .ok after) : after.inboundEvents = hub.inboundEvents := by
  rw [inboundEvents_setCredential (createInboundEndpoint_ok done)]

theorem inboundEvents_patchInboundEndpoint {enabled trustedSource : Option Bool}
    {actorIsAdmin : Bool}
    (done : patchInboundEndpoint hub endpointId enabled trustedSource actorIsAdmin = .ok after) :
    after.inboundEvents = hub.inboundEvents := by
  unfold patchInboundEndpoint at done
  split at done
  · cases done
  · split at done
    · cases done
    · cases done
      rfl

theorem inboundEvents_disableEndpoint (done : disableEndpoint hub endpointId = .ok after) :
    after.inboundEvents = hub.inboundEvents := by
  unfold disableEndpoint at done
  split at done
  · cases done
  · cases done
    rfl

theorem rejectInbound_ok {eventId : Nat} (done : rejectInbound hub eventId now = .ok after) :
    after.inboundEvents = hub.inboundEvents.modify eventId fun event =>
      { event with status := .rejected, updatedAt := now } := by
  unfold rejectInbound at done
  split at done
  · cases done
  · cases done
    rfl

theorem promoteInbound_ok {eventId : Nat} {targetType : String}
    (done : promoteInbound hub eventId targetType now = .ok after) :
    after.inboundEvents = hub.inboundEvents.modify eventId fun event =>
      { event with status := .promoted, updatedAt := now } := by
  unfold promoteInbound at done
  repeat' split at done
  all_goals cases done
  rfl

theorem InboundHub.Remembers.settle (remembers : hub.Remembers endpointId externalId since)
    {result : Except Fault (InboundHub Ciphertext)}
    (kept : ∀ after, result = .ok after → after.Remembers endpointId externalId since) :
    (hub.settle result).Remembers endpointId externalId since := by
  cases result with
  | error fault => exact remembers
  | ok after => exact kept after rfl

theorem ingestInbound_of_examined {endpoint : ConnectorInboundEndpoint} {examined : Examined}
    {body : List UInt8} {headers : Headers} (found : hub.endpoints.get? endpointId = some endpoint)
    (checks : examine env hub endpointId endpoint (headers.presented env.py) body
      now = .ok examined) :
    ingestInbound env hub endpointId body headers now =
      if exceedsBound env.py examined.redacted ||
          exceedsBound env.py examined.normalized then
        ({ hub with
            replayNonces := hub.replayNonces.insert
              (newNonce env endpointId endpoint examined.request.externalId now) },
          refuse .payloadTooLarge "JSON payload exceeds the configured bound")
      else if hub.hasEvent endpointId examined.request.externalId then
        (hub, refuse .replayDetected "Inbound authentication failed")
      else
        ({ hub with
            replayNonces := hub.replayNonces.insert
              (newNonce env endpointId endpoint examined.request.externalId now)
            inboundEvents := hub.inboundEvents.insert
              (newEvent endpointId endpoint examined body now) },
          .ok hub.inboundEvents.nextKey) := by
  unfold ingestInbound
  rw [found]
  simp only [checks]

/-- **Receiving an event**: it is refused and no event is stored, or it passed every check,
its identifier was new and its event is stored. -/
theorem ingestInbound_cases (env : HubPlatform Ciphertext) (hub : InboundHub Ciphertext)
    (endpointId : Nat) (body : List UInt8) (headers : Headers) (now : Instant) :
    (∃ fault, (ingestInbound env hub endpointId body headers now).2 = .error fault ∧
      (ingestInbound env hub endpointId body headers now).1.inboundEvents =
        hub.inboundEvents) ∨
    ∃ endpoint examined key,
      hub.endpoints.get? endpointId = some endpoint ∧
      examine env hub endpointId endpoint (headers.presented env.py) body now =
        .ok examined ∧
      hub.hasEvent endpointId examined.request.externalId = false ∧
      (ingestInbound env hub endpointId body headers now).2 = .ok key ∧
      (ingestInbound env hub endpointId body headers now).1.inboundEvents =
        hub.inboundEvents.insert (newEvent endpointId endpoint examined body now) := by
  cases found : hub.endpoints.get? endpointId with
  | none =>
    refine .inl ⟨.http 401, ?_, ?_⟩
    · simp only [ingestInbound, found]
    · simp only [ingestInbound, found]
  | some endpoint =>
    cases checks : examine env hub endpointId endpoint
        (headers.presented env.py) body now with
    | error fault =>
      refine .inl ⟨fault, ?_, ?_⟩
      · simp only [ingestInbound, found, checks]
      · simp only [ingestInbound, found, checks]
    | ok examined =>
      have result := ingestInbound_of_examined found checks
      split at result
      · exact .inl ⟨_, by rw [result]; rfl, by rw [result]⟩
      · split at result
        · exact .inl ⟨_, by rw [result]; rfl, by rw [result]⟩
        · rename_i fresh
          exact .inr ⟨endpoint, examined, _, rfl, checks, Bool.eq_false_iff.mpr fresh,
            by rw [result], by rw [result]⟩

/-- **One call keeps what an endpoint remembers for a day.** -/
theorem InboundHub.Remembers.next (remembers : hub.Remembers endpointId externalId since)
    (input : TimedCall) (past : since ≤ input.now) :
    (hub.next env input).Remembers endpointId externalId since ∨
      since + days 1 < input.now := by
  obtain ⟨now, call⟩ := input
  cases call with
  | setCredential connectorId credentialType secretPayload actorId rotate draw =>
    exact .inl (remembers.settle fun after done =>
      remembers.of_same (inboundEvents_setCredential done))
  | removeCredential connectorId draw token =>
    exact .inl (remembers.settle fun after done =>
      remembers.of_same (inboundEvents_removeCredential done))
  | createEndpoint payload actorId actorIsAdmin draw =>
    exact .inl (remembers.settle fun after done =>
      remembers.of_same (inboundEvents_createInboundEndpoint done))
  | patchEndpoint other enabled trustedSource actorIsAdmin =>
    exact .inl (remembers.settle fun after done =>
      remembers.of_same (inboundEvents_patchInboundEndpoint done))
  | disableEndpoint other =>
    exact .inl (remembers.settle fun after done =>
      remembers.of_same (inboundEvents_disableEndpoint done))
  | ingest other body headers =>
    left
    rcases ingestInbound_cases env hub other body headers now with
      ⟨fault, -, same⟩ | ⟨endpoint, examined, key, -, -, -, -, added⟩
    · exact remembers.of_same same
    · exact remembers.insert added
  | reject eventId =>
    exact .inl (remembers.settle fun after done =>
      remembers.modify past (rejectInbound_ok done))
  | promote eventId targetType =>
    exact .inl (remembers.settle fun after done =>
      remembers.modify past (promoteInbound_ok done))
  | processDue batchSize => exact .inl (remembers.of_same rfl)
  | retainNonces chosen => exact .inl (remembers.of_same rfl)
  | retainEvents chosen retentionDays => exact remembers.removeRejected chosen retentionDays

end Steps

/-! ## Accepted requests of a run -/

/-- The signed part of a request, with the signature as `verify_hmac` compares it. -/
structure SignedRequest where
  timestamp : String
  body : List UInt8
  signature : String
deriving DecidableEq

/-- A transition of the inbound side. -/
abbrev InboundTransition (Ciphertext : Type) := Transition (InboundHub Ciphertext) TimedCall

/-- The signed part and the event identifier of a call that reaches an endpoint. -/
def TimedCall.sent (input : TimedCall) (py : Interpreter) (endpointId : Nat) :
    Option (SignedRequest × String) :=
  match input.call with
  | .ingest reached body headers =>
    if reached = endpointId then
      let request := headers.presented py
      some (⟨request.timestamp, body, Text.strip request.signature⟩, request.externalId)
    else none
  | _ => none

/-- The signed part and the event identifier of a request that an endpoint accepts. -/
def acceptedBy (env : HubPlatform Ciphertext) (endpointId : Nat)
    (move : InboundTransition Ciphertext) :
    Option (SignedRequest × String) :=
  match move.input.call with
  | .ingest reached body headers =>
    match (ingestInbound env move.before reached body headers
        move.input.now).2 with
    | .ok _ => move.input.sent env.py endpointId
    | .error _ => none
  | _ => none

/-- The signed requests that an endpoint accepts in a run, in order. -/
def acceptedRequests (env : HubPlatform Ciphertext) (endpointId : Nat)
    (transitions : List (InboundTransition Ciphertext)) : List SignedRequest :=
  (transitions.filterMap (acceptedBy env endpointId)).map Prod.fst

/-- A later request that repeats the signed part of an accepted one carries the event
identifier it was accepted under. -/
def KeepsIdentifier (env : HubPlatform Ciphertext) (endpointId : Nat)
    (earlier later : InboundTransition Ciphertext) : Prop :=
  ∀ request first second, acceptedBy env endpointId earlier = some (request, first) →
    later.input.sent env.py endpointId = some (request, second) → second = first

section Accepted

variable {env : HubPlatform Ciphertext} {hub : InboundHub Ciphertext} {endpointId : Nat}

theorem readBody_request {endpoint : ConnectorInboundEndpoint} {request : Presented}
    {body : List UInt8} {examined : Examined}
    (read : readBody env hub endpoint request body = .ok examined) :
    examined.request = request := by
  unfold readBody at read
  split at read
  · cases read
  · cases read
  · split at read
    · cases read
    · obtain ⟨normalized, -, read⟩ := bind_eq_ok_iff.mp read
      cases read
      rfl
  · cases read

theorem close_of_checkHeaders {endpoint : ConnectorInboundEndpoint} {request : Presented}
    {body : List UInt8} {now : Instant}
    (passed : checkHeaders env endpoint request body now = .ok ()) :
    ∃ instant, instantOf env.py request.timestamp = some instant ∧
      |now - instant| ≤ minutes 15 := by
  unfold checkHeaders at passed
  split at passed
  · cases passed
  · split at passed
    · cases passed
    · split at passed
      · cases passed
      · cases stamp : instantOf env.py request.timestamp with
        | none => simp only [stamp] at passed; cases passed
        | some instant =>
          simp only [stamp] at passed
          split at passed
          · cases passed
          · rename_i near
            have bound : endpoint.tolerance ≤ minutes 15 := by
              simp only [ConnectorInboundEndpoint.tolerance, minutes]
              omega
            exact ⟨instant, rfl, le_trans (not_lt.mp near) bound⟩

/-- **An accepted request** was close to its timestamp, its identifier was new to the
endpoint, and the endpoint remembers it. -/
theorem acceptedBy_spec {input : TimedCall} {request : SignedRequest} {externalId : String}
    (accepted : acceptedBy env endpointId ⟨hub, input, hub.next env input⟩ =
      some (request, externalId)) :
    input.sent env.py endpointId = some (request, externalId) ∧
      hub.hasEvent endpointId externalId = false ∧
      (hub.next env input).Remembers endpointId externalId input.now ∧
      ∃ instant, instantOf env.py request.timestamp = some instant ∧
        |input.now - instant| ≤ minutes 15 := by
  obtain ⟨now, call⟩ := input
  cases call with
  | ingest reached body headers =>
    rcases ingestInbound_cases env hub reached body headers now with
      ⟨fault, refused, -⟩ | ⟨endpoint, examined, key, found, checks, fresh, ok, added⟩
    · simp only [acceptedBy, refused] at accepted
      cases accepted
    · simp only [acceptedBy, ok] at accepted
      have sent := accepted
      simp only [TimedCall.sent] at accepted
      split at accepted
      · rename_i here
        subst here
        cases accepted
        obtain ⟨⟨⟩, passed, checks⟩ := bind_eq_ok_iff.mp checks
        obtain ⟨⟨⟩, -, checks⟩ := bind_eq_ok_iff.mp checks
        split at checks
        · cases checks
        have same := readBody_request checks
        rw [same] at fresh
        have remembered := InboundHub.remembers_of_added added
        simp only [newEvent, same] at remembered
        exact ⟨sent, fresh, remembered, close_of_checkHeaders passed⟩
      · cases accepted
  | setCredential | removeCredential | createEndpoint | patchEndpoint | disableEndpoint | reject
  | promote | processDue | retainNonces | retainEvents => cases accepted

end Accepted

/-! ## Accepted once -/

section Runs

variable (env : HubPlatform Ciphertext) (endpointId : Nat)

/-- Every accepted request of the past was close to its timestamp, and is remembered or a
day old. -/
def Remembered (past : List (InboundTransition Ciphertext)) (hub : InboundHub Ciphertext) : Prop :=
  ∀ move ∈ past, ∀ request externalId,
    acceptedBy env endpointId move = some (request, externalId) →
      (∃ instant, instantOf env.py request.timestamp = some instant ∧
        |move.input.now - instant| ≤ minutes 15) ∧
      (hub.Remembers endpointId externalId move.input.now ∨
        ∃ later ∈ past, move.input.now + days 1 < later.input.now)

/-- The clock does not run backwards along the transitions. -/
def InOrder (transitions : List (InboundTransition Ciphertext)) : Prop :=
  transitions.Pairwise fun earlier later => earlier.input.now ≤ later.input.now

variable {env endpointId} {past : List (InboundTransition Ciphertext)} {hub : InboundHub Ciphertext}
  {input : TimedCall}

/-- **One more call keeps the invariant.** -/
theorem Remembered.next (remembered : Remembered env endpointId past hub)
    (ordered : ∀ move ∈ past, move.input.now ≤ input.now) :
    Remembered env endpointId (past ++ [⟨hub, input, hub.next env input⟩])
      (hub.next env input) := by
  intro move member request externalId accepted
  rcases List.mem_append.mp member with old | new
  · obtain ⟨close, kept⟩ := remembered move old request externalId accepted
    refine ⟨close, ?_⟩
    rcases kept with remembers | ⟨later, place, late⟩
    · rcases remembers.next input (ordered move old) with still | late
      · exact .inl still
      · exact .inr ⟨_, List.mem_append_right _ (List.mem_singleton_self _), late⟩
    · exact .inr ⟨later, List.mem_append_left _ place, late⟩
  · rw [List.mem_singleton.mp new] at accepted ⊢
    obtain ⟨-, -, remembers, close⟩ := acceptedBy_spec accepted
    exact ⟨close, .inl remembers⟩

/-- **A repetition under the same identifier is refused**: the event is still stored, or
the timestamp is too old. -/
theorem Remembered.refuses (remembered : Remembered env endpointId past hub)
    (ordered : ∀ move ∈ past, move.input.now ≤ input.now)
    {move : InboundTransition Ciphertext} (member : move ∈ past) {request : SignedRequest}
    {externalId : String} (accepted : acceptedBy env endpointId move = some (request, externalId)) :
    acceptedBy env endpointId ⟨hub, input, hub.next env input⟩ ≠
      some (request, externalId) := by
  intro again
  obtain ⟨-, fresh, -, instant, stamp, close⟩ := acceptedBy_spec again
  obtain ⟨⟨first, firstStamp, firstClose⟩, kept⟩ :=
    remembered move member request externalId accepted
  rcases kept with remembers | ⟨later, place, late⟩
  · rw [hasEvent_of_remembers remembers] at fresh
    cases fresh
  · have same : first = instant := by
      rw [firstStamp] at stamp
      exact Option.some.inj stamp
    have reached := ordered later place
    rw [same] at firstClose
    have before := abs_le.mp firstClose
    have after := abs_le.mp close
    have apart : days 1 < input.now - move.input.now := by linarith
    have together : input.now - move.input.now ≤ minutes 15 + minutes 15 := by linarith
    have short : minutes 15 + minutes 15 < days 1 := by decide
    exact absurd (lt_of_lt_of_le apart together) (not_lt.mpr short.le)

theorem acceptedRequests_concat (move : InboundTransition Ciphertext) :
    acceptedRequests env endpointId (past ++ [move]) =
      acceptedRequests env endpointId past ++
        ((acceptedBy env endpointId move).map Prod.fst).toList := by
  rw [acceptedRequests, List.filterMap_append, List.map_append]
  cases accepted : acceptedBy env endpointId move with
  | none => simp [acceptedRequests, accepted]
  | some pair => simp [acceptedRequests, accepted]

/-- **The run lemma**: while repetitions keep their identifiers, no signed request is
accepted twice, and the accepted ones stay remembered. -/
theorem nodup_of_run (start : InboundHub Ciphertext) (calls : List TimedCall) :
    (trace (InboundHub.next env) start calls).Pairwise
        (KeepsIdentifier env endpointId) →
      InOrder (trace (InboundHub.next env) start calls) →
      (acceptedRequests env endpointId
        (trace (InboundHub.next env) start calls)).Nodup ∧
      Remembered env endpointId (trace (InboundHub.next env) start calls)
        (final (InboundHub.next env) start calls) := by
  refine run_induction (InboundHub.next env)
    (motive := fun past hub => past.Pairwise (KeepsIdentifier env endpointId) →
      InOrder past → (acceptedRequests env endpointId past).Nodup ∧
        Remembered env endpointId past hub) ?_ ?_ calls
  · exact fun _ _ => ⟨List.nodup_nil, fun _ member => absurd member List.not_mem_nil⟩
  · intro past hub input ih keeps ordered
    obtain ⟨keepsPast, -, keepsLast⟩ := List.pairwise_append.mp keeps
    obtain ⟨orderedPast, -, orderedLast⟩ := List.pairwise_append.mp ordered
    obtain ⟨distinct, remembered⟩ := ih keepsPast orderedPast
    have before : ∀ move ∈ past, move.input.now ≤ input.now :=
      fun move member => orderedLast move member _ (List.mem_singleton_self _)
    refine ⟨?_, remembered.next before⟩
    rw [acceptedRequests_concat]
    cases accepted : acceptedBy env endpointId ⟨hub, input, hub.next env input⟩ with
    | none => simpa using distinct
    | some pair =>
      obtain ⟨request, externalId⟩ := pair
      refine List.nodup_append.mpr ⟨distinct, by simp, ?_⟩
      rintro old member _ new rfl
      simp only [Option.map_some, Option.toList_some, List.mem_singleton] at new
      subst new
      obtain ⟨pair, accepting, rfl⟩ := List.mem_map.mp member
      obtain ⟨move, place, was⟩ := List.mem_filterMap.mp accepting
      have sent := (acceptedBy_spec accepted).1
      have identifier := keepsLast move place _ (List.mem_singleton_self _) pair.1 pair.2
        externalId was sent
      rw [identifier] at accepted
      exact remembered.refuses before place was accepted

theorem inOrder_trace {start : InboundHub Ciphertext} {calls : List TimedCall}
    (ordered : Chronological calls) :
    InOrder (trace (InboundHub.next env) start calls) := by
  have inputs := map_input_trace (InboundHub.next env) start calls
  rw [Chronological, ← inputs, List.pairwise_map] at ordered
  exact ordered

end Runs

/-- **Signed requests are accepted at most once when repetitions keep their identifier.**
In every run whose clock does not run backwards and in which a request that repeats the
signed part of an accepted one carries its event identifier, an endpoint accepts no signed
request twice, whatever is rotated, decided, expired and cleaned up in between. -/
theorem accepted_once (env : HubPlatform Ciphertext) (start : InboundHub Ciphertext)
    (endpointId : Nat) (calls : List TimedCall) (ordered : Chronological calls)
    (keeps : (trace (InboundHub.next env) start calls).Pairwise
      (KeepsIdentifier env endpointId)) :
    (acceptedRequests env endpointId
      (trace (InboundHub.next env) start calls)).Nodup :=
  (nodup_of_run start calls keeps (inOrder_trace ordered)).1

theorem sent_of_acceptedBy {env : HubPlatform Ciphertext} {endpointId : Nat}
    {move : InboundTransition Ciphertext} {pair : SignedRequest × String}
    (accepted : acceptedBy env endpointId move = some pair) :
    move.input.sent env.py endpointId = some pair := by
  unfold acceptedBy at accepted
  split at accepted
  · split at accepted
    · exact accepted
    · cases accepted
  · cases accepted

theorem keepsIdentifier_of_constant {env : HubPlatform Ciphertext} {endpointId : Nat}
    {start : InboundHub Ciphertext} {calls : List TimedCall} (externalId : String)
    (constant : ∀ input ∈ calls, ∀ pair ∈ input.sent env.py endpointId,
      pair.2 = externalId) :
    (trace (InboundHub.next env) start calls).Pairwise
      (KeepsIdentifier env endpointId) := by
  refine List.pairwise_of_forall_mem_list fun earlier first later second => ?_
  intro request one other accepted sent
  have same := constant earlier.input (input_mem_of_mem_trace _ first) _
    (sent_of_acceptedBy accepted)
  have also := constant later.input (input_mem_of_mem_trace _ second) _ sent
  exact also.trans same.symm

/-- A request, the clean-up after its nonce has expired, and its repetition. -/
def repeatCalls : List TimedCall :=
  [createCall, signedCall "first-signing-secret" "event-1" 0, ⟨noon + 100000000, .processDue 100⟩,
    signedCall "first-signing-secret" "event-1" 200000000]

theorem accepted_once_repeated :
    (acceptedRequests plainHubPlatform 1
      (trace (InboundHub.next plainHubPlatform) oneConnector repeatCalls)).Nodup :=
  accepted_once plainHubPlatform _ 1 repeatCalls (by unfold Chronological; decide)
    (keepsIdentifier_of_constant "event-1" (by decide +kernel))

/-- A request and its repetition under another identifier, a second later. -/
def replayCalls : List TimedCall :=
  [createCall, signedCall "first-signing-secret" "event-1" 0,
    signedCall "first-signing-secret" "event-2" 1000000]

/-- **A signed request is accepted again under another event identifier.** The digest of
the platform is the identity, so the nonces collide for no two identifiers. -/
theorem replayed_request :
    Function.Injective plainHubPlatform.sha256 ∧ Chronological replayCalls ∧
      ¬ (acceptedRequests plainHubPlatform 1
        (trace (InboundHub.next plainHubPlatform) oneConnector replayCalls)).Nodup := by
  refine ⟨fun _ _ same => same, ?_, ?_⟩
  · unfold Chronological
    decide
  · decide +kernel

end ThreatScope.Integrations
