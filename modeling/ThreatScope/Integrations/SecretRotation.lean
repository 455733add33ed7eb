import ThreatScope.Integrations.ReplayProtection
import ThreatScope.Library.SortedKeys

/-!
# The overlap of a signing secret

A rotation keeps the secret it replaces for five minutes, so that requests signed just
before it are still accepted. The service keeps it inside the encrypted credential, under
two keys next to those of the caller, and reads it back from there. A caller who writes
these keys grants an overlap of any length to a secret that was never set
(`forged_overlap`).

While no call writes an overlap of its own, what an endpoint accepts is signed with the
secret of the latest call, or within five minutes of a rotation with the one before it
(`accepted_secrets`). The run lemma follows the credential along the history of the calls
that set it (`Tracks`).
-/

set_option autoImplicit false

namespace ThreatScope.Integrations

open Library AccessControl

variable {Ciphertext : Type}

/-! ## The history of a credential -/

/-- A call that set a credential. -/
structure Setting where
  secretPayload : Dict
  rotate : Bool
  time : Instant

/-- What happened to a credential. -/
inductive CredentialEntry where
  | set (setting : Setting)
  | removed

/-- An encrypted object as it is read back, with its keys sorted. -/
def readBack (payload : Dict) : Dict := (sortKeys (.obj payload)).fields

/-- The signing secret of a setting. -/
def Setting.secret (py : Interpreter) (setting : Setting) : String :=
  signingSecret py (readBack setting.secretPayload)

/-- The entry a transition adds to the history of a connector's credential. -/
def entryOf (env : HubPlatform Ciphertext) (connectorId : Nat)
    (move : InboundTransition Ciphertext) : Option CredentialEntry :=
  let now := move.input.now
  match move.input.call with
  | .setCredential reached credentialType secretPayload actorId rotate draw =>
    match setCredential env move.before reached credentialType secretPayload actorId
        rotate now draw with
    | .ok _ => if reached = connectorId then some (.set ⟨secretPayload, rotate, now⟩) else none
    | .error _ => none
  | .createEndpoint payload actorId actorIsAdmin draw =>
    match createInboundEndpoint env move.before payload actorId actorIsAdmin now
        draw with
    | .ok _ =>
      if payload.connectorId = connectorId then
        some (.set ⟨[("signing_secret", .str payload.secret)], false, now⟩)
      else none
    | .error _ => none
  | .removeCredential reached draw token =>
    match removeCredential env move.before reached now draw token with
    | .ok _ => if reached = connectorId then some .removed else none
    | .error _ => none
  | _ => none

/-- The history of a connector's credential, the latest entry first. -/
def historyOf (env : HubPlatform Ciphertext) (connectorId : Nat)
    (past : List (InboundTransition Ciphertext)) : List CredentialEntry :=
  (past.filterMap (entryOf env connectorId)).reverse

/-- The secrets a request may be signed with at a time: that of the latest call, and within
five minutes of a rotation that of the call before it. -/
def Permitted (py : Interpreter) (history : List CredentialEntry) (now : Instant)
    (secret : String) : Prop :=
  match history with
  | .set latest :: earlier =>
    secret = latest.secret py ∨
      latest.rotate = true ∧ now ≤ latest.time + minutes 5 ∧
        ∃ previous rest, earlier = .set previous :: rest ∧ secret = previous.secret py
  | _ => False

/-- The object carries no overlap that is in force at a time. -/
def CarriesNoOverlap (env : HubPlatform Ciphertext) (secretPayload : Dict) (now : Instant) :
    Prop :=
  ∀ secret, overlapSecret env (readBack secretPayload) now ≠ .ok (some secret)

/-- A call on the credential of a connector leaves the overlap to the service: its object
carries none, or it is a rotation that replaces another secret and overwrites it. -/
def LeavesOverlap (env : HubPlatform Ciphertext) (connectorId : Nat)
    (move : InboundTransition Ciphertext) : Prop :=
  match move.input.call with
  | .setCredential reached _ secretPayload _ rotate _ =>
    reached = connectorId →
      CarriesNoOverlap env secretPayload move.input.now ∨
      ∃ connector previousSecret,
        move.before.connectors.get? connectorId = some connector ∧
        supersededSecret env connector.connectorType
          ((move.before.credentialOf connectorId).map Prod.snd) secretPayload rotate =
            .ok (some previousSecret)
  | _ => True

/-! ## Reading a credential back -/

section Payloads

variable {env : HubPlatform Ciphertext} {secretPayload stored : Dict} {now instant : Instant}

theorem find?_readBack (payload : Dict) (key : String) :
    Dict.find? (readBack payload) key = (Dict.find? payload key).map sortKeys :=
  find?_fields_sortKeys payload key

theorem get_readBack (payload : Dict) (key : String) :
    Dict.get (readBack payload) key = sortKeys (Dict.get payload key) := by
  rw [Dict.get, find?_readBack, Dict.get]
  cases Dict.find? payload key <;> rfl

theorem sortKeys_obj (payload : Dict) : sortKeys (.obj payload) = .obj (readBack payload) := by
  rw [readBack, sortKeys]
  rfl

/-- **A credential that was encrypted is read back.** -/
theorem decryptSecret_of_encryptSecret {draw : Nat} {payload : Dict} {ciphertext : Ciphertext}
    (encrypted : encryptSecret env draw payload = .ok ciphertext) :
    decryptSecret env ciphertext = .ok (readBack payload) := by
  unfold encryptSecret at encrypted
  split at encrypted
  · cases encrypted
  · rename_i vault found
    cases encrypted
    unfold decryptSecret
    rw [found, Option.bind_some, vault.decrypt_encrypt, sortKeys_obj]

/-- **An overlap in force**: both keys are set and the date is not over. -/
theorem overlapSecret_eq_some_iff {secret : String} :
    overlapSecret env secretPayload now = .ok (some secret) ↔
      (Dict.get secretPayload "_previous_signing_secret").truthy = true ∧
      (Dict.get secretPayload "_previous_valid_until").truthy = true ∧
      (∃ overlapUntil, env.fromisoformat (env.py.str
          (Dict.get secretPayload "_previous_valid_until")) = some (.naive overlapUntil) ∧
        now ≤ overlapUntil) ∧
      secret = env.py.str (Dict.get secretPayload "_previous_signing_secret") := by
  unfold overlapSecret
  dsimp only
  constructor
  · intro granted
    split at granted
    · rename_i carried
      obtain ⟨previous, validUntil⟩ := Bool.and_eq_true_iff.mp carried
      split at granted
      · cases granted
      · cases granted
      · rename_i overlapUntil read
        split at granted
        · rename_i force
          cases granted
          exact ⟨previous, validUntil, ⟨overlapUntil, read, force⟩, rfl⟩
        · cases granted
    · cases granted
  · rintro ⟨previous, validUntil, ⟨overlapUntil, read, force⟩, rfl⟩
    rw [previous, validUntil, if_pos (by rfl), read]
    dsimp only
    rw [if_pos force]

theorem CarriesNoOverlap.later (clean : CarriesNoOverlap env secretPayload now)
    (ordered : now ≤ instant) : CarriesNoOverlap env secretPayload instant := by
  intro secret granted
  obtain ⟨previous, validUntil, ⟨overlapUntil, read, force⟩, same⟩ :=
    overlapSecret_eq_some_iff.mp granted
  exact clean secret (overlapSecret_eq_some_iff.mpr
    ⟨previous, validUntil, ⟨overlapUntil, read, le_trans ordered force⟩, same⟩)

/-- **The overlap the service writes** is that of the superseded secret, for five minutes. -/
theorem overlapSecret_of_superseded {previousSecret : Json} {secret : String}
    (granted : overlapSecret env (readBack (Dict.set (Dict.set secretPayload
      "_previous_signing_secret" previousSecret) "_previous_valid_until"
        (.str (env.isoformat (now + minutes 5))))) instant = .ok (some secret)) :
    instant ≤ now + minutes 5 ∧ secret = env.py.str (sortKeys previousSecret) := by
  obtain ⟨-, -, ⟨overlapUntil, read, force⟩, same⟩ := overlapSecret_eq_some_iff.mp granted
  rw [get_readBack, Dict.get, Dict.find?_set_self] at read
  rw [get_readBack, Dict.get, Dict.find?_set_of_ne _ _ (by decide), Dict.find?_set_self] at same
  have written : env.fromisoformat (env.isoformat (now + minutes 5)) =
      some (.naive overlapUntil) := read
  rw [env.fromisoformat_isoformat] at written
  cases written
  exact ⟨force, same⟩

theorem find?_storedPayload {connectorType : ConnectorType}
    {item : Option (ConnectorCredential Ciphertext)} {rotate : Bool}
    (storing : storedPayload env connectorType item secretPayload rotate now = .ok stored) :
    Dict.find? stored "signing_secret" = Dict.find? secretPayload "signing_secret" := by
  obtain ⟨superseded, -, storing⟩ := bind_eq_ok_iff.mp storing
  cases superseded with
  | none =>
    cases storing
    rfl
  | some previousSecret =>
    cases storing
    rw [Dict.find?_set_of_ne _ _ (by decide), Dict.find?_set_of_ne _ _ (by decide)]

theorem supersededSecret_eq_some {connectorType : ConnectorType}
    {item : Option (ConnectorCredential Ciphertext)} {rotate : Bool} {previousSecret : Json}
    (superseded : supersededSecret env connectorType item secretPayload rotate =
      .ok (some previousSecret)) :
    ∃ credential previous, item = some credential ∧ rotate = true ∧
      decryptSecret env credential.encryptedPayload = .ok previous ∧
      previousSecret = Dict.get previous "signing_secret" ∧ previousSecret.truthy = true := by
  unfold supersededSecret at superseded
  cases item with
  | none => cases superseded
  | some credential =>
    simp only at superseded
    split at superseded
    · rename_i inbound
      obtain ⟨previous, read, superseded⟩ := bind_eq_ok_iff.mp superseded
      simp only [Except.ok.injEq] at superseded
      split at superseded
      · rename_i differs
        cases superseded
        simp only [Bool.and_eq_true] at inbound differs
        exact ⟨credential, previous, rfl, inbound.1, read, rfl, differs.1⟩
      · cases superseded
    · cases superseded

end Payloads

/-! ## The rows of a connector -/

/-- A credential row of a connector. -/
def InboundHub.RowFor (hub : InboundHub Ciphertext) (connectorId key : Nat)
    (row : ConnectorCredential Ciphertext) : Prop :=
  hub.credentials.get? key = some row ∧ row.connectorId = connectorId

section Rows

variable {env : HubPlatform Ciphertext} {hub after : InboundHub Ciphertext}
  {connectorId reached key : Nat} {row : ConnectorCredential Ciphertext} {ciphertext : Ciphertext}
  {configured : Bool}

theorem rowFor_of_credentialOf (item : hub.credentialOf connectorId = some (key, row)) :
    hub.RowFor connectorId key row := by
  obtain ⟨stored, owner⟩ := Table.get?_of_first? item
  exact ⟨stored, beq_iff_eq.mp owner⟩

theorem not_rowFor_of_credentialOf (item : hub.credentialOf connectorId = none) :
    ¬ hub.RowFor connectorId key row := by
  rintro ⟨stored, owner⟩
  have other := Table.first?_eq_none_iff.mp item key row stored
  rw [owner, beq_self_eq_true] at other
  cases other

theorem rowFor_of_configuredCredential
    (item : hub.configuredCredential connectorId = some (key, row)) :
    hub.RowFor connectorId key row ∧ row.configured = true := by
  obtain ⟨stored, passes⟩ := Table.get?_of_first? item
  obtain ⟨owner, configured⟩ := Bool.and_eq_true_iff.mp passes
  exact ⟨⟨stored, beq_iff_eq.mp owner⟩, configured⟩

theorem WritesCredential.rowFor_iff
    (writes : WritesCredential hub after reached ciphertext configured)
    (apart : reached ≠ connectorId) :
    after.RowFor connectorId key row ↔ hub.RowFor connectorId key row := by
  rcases writes with ⟨place, credential, change, item, changed, kept⟩ | ⟨-, added, inserted, owner,
    -⟩
  · have own := rowFor_of_credentialOf item
    rw [InboundHub.RowFor, InboundHub.RowFor, changed]
    by_cases here : key = place
    · subst here
      rw [Table.get?_modify_self, own.1]
      constructor
      · rintro ⟨same, mine⟩
        cases same
        exact absurd (own.2.symm.trans ((kept credential).1.symm.trans mine)) apart
      · rintro ⟨same, mine⟩
        cases same
        exact absurd (own.2.symm.trans mine) apart
    · rw [Table.get?_modify_of_ne _ _ here]
  · rw [InboundHub.RowFor, InboundHub.RowFor, inserted, Table.get?_insert]
    split
    · rename_i here
      subst here
      constructor
      · rintro ⟨same, mine⟩
        cases same
        exact absurd (owner.symm.trans mine) apart
      · rintro ⟨stored, -⟩
        rw [Table.get?_eq_none_of_ge _ (le_refl _)] at stored
        cases stored
    · rfl

/-- **The only row of a connector after its credential is written** is the one written. -/
theorem WritesCredential.written
    (writes : WritesCredential hub after connectorId ciphertext configured)
    (unique : ∀ key other row another, hub.RowFor connectorId key row →
      hub.RowFor connectorId other another → key = other) :
    ∃ place, ∀ key row, after.RowFor connectorId key row →
      key = place ∧ row.encryptedPayload = ciphertext ∧ row.configured = configured := by
  rcases writes with ⟨place, credential, change, item, changed, kept⟩ |
    ⟨item, added, inserted, owner, written⟩
  · have own := rowFor_of_credentialOf item
    refine ⟨place, ?_⟩
    rintro key row ⟨stored, mine⟩
    rw [changed] at stored
    by_cases here : key = place
    · subst here
      rw [Table.get?_modify_self, own.1] at stored
      cases stored
      exact ⟨rfl, (kept credential).2⟩
    · rw [Table.get?_modify_of_ne _ _ here] at stored
      exact absurd (unique _ _ _ _ ⟨stored, mine⟩ own) here
  · refine ⟨hub.credentials.nextKey, ?_⟩
    rintro key row ⟨stored, mine⟩
    rw [inserted, Table.get?_insert] at stored
    split at stored
    · rename_i here
      cases stored
      exact ⟨here, written⟩
    · exact absurd ⟨stored, mine⟩ (not_rowFor_of_credentialOf item)

end Rows

/-! ## The credential follows its history -/

/-- The object behind a row agrees with the latest call: it holds the secret of that call,
and an overlap only for the secret of the call before it. -/
def Agrees (env : HubPlatform Ciphertext) (latest : Setting)
    (earlier : List CredentialEntry) (row : ConnectorCredential Ciphertext) : Prop :=
  ∃ stored, decryptSecret env row.encryptedPayload = .ok (readBack stored) ∧
    Dict.find? stored "signing_secret" = Dict.find? latest.secretPayload "signing_secret" ∧
    ∀ instant secret, latest.time ≤ instant →
      overlapSecret env (readBack stored) instant = .ok (some secret) →
        latest.rotate = true ∧ instant ≤ latest.time + minutes 5 ∧
          ∃ previous rest, earlier = .set previous :: rest ∧
            secret = previous.secret env.py

/-- A row behind which there is no secret. -/
def Discarded (env : HubPlatform Ciphertext) (row : ConnectorCredential Ciphertext) : Prop :=
  row.configured = false ∧ ∃ fields, decryptSecret env row.encryptedPayload = .ok fields ∧
    (Dict.get fields "signing_secret").truthy = false

/-- **The invariant**: a connector has at most one credential, and it is what the history
of the calls says. -/
def Tracks (env : HubPlatform Ciphertext) (connectorId : Nat)
    (history : List CredentialEntry) (hub : InboundHub Ciphertext) : Prop :=
  (∀ key other row another, hub.RowFor connectorId key row →
    hub.RowFor connectorId other another → key = other) ∧
  ∀ key row, hub.RowFor connectorId key row →
    match history with
    | [] => False
    | .removed :: _ => Discarded env row
    | .set latest :: earlier => Agrees env latest earlier row

section Steps

variable {env : HubPlatform Ciphertext} {hub after : InboundHub Ciphertext}
  {connectorId draw : Nat} {history : List CredentialEntry} {now : Instant}

theorem Tracks.of_rows (tracks : Tracks env connectorId history hub)
    (same : ∀ key row, after.RowFor connectorId key row → hub.RowFor connectorId key row) :
    Tracks env connectorId history after :=
  ⟨fun key other row another first second =>
      tracks.1 key other row another (same key row first) (same other another second),
    fun key row stored => tracks.2 key row (same key row stored)⟩

theorem Tracks.of_credentials (tracks : Tracks env connectorId history hub)
    (same : after.credentials = hub.credentials) : Tracks env connectorId history after := by
  refine tracks.of_rows fun key row stored => ?_
  rw [InboundHub.RowFor, ← same]
  exact stored

/-- The secret that is superseded is the one stored last. -/
theorem Tracks.superseded (tracks : Tracks env connectorId history hub)
    {connectorType : ConnectorType} {secretPayload : Dict} {rotate : Bool} {previousSecret : Json}
    (superseded : supersededSecret env connectorType
      ((hub.credentialOf connectorId).map Prod.snd) secretPayload rotate =
        .ok (some previousSecret)) :
    rotate = true ∧ ∃ previous rest, history = .set previous :: rest ∧
      env.py.str (sortKeys previousSecret) = previous.secret env.py := by
  obtain ⟨credential, previous, item, rotates, read, same, truthy⟩ :=
    supersededSecret_eq_some superseded
  obtain ⟨⟨key, row⟩, found, rfl⟩ := Option.map_eq_some_iff.mp item
  have agrees := tracks.2 key row (rowFor_of_credentialOf found)
  refine ⟨rotates, ?_⟩
  match history, agrees with
  | .removed :: _, ⟨_, fields, removed, empty⟩ =>
    rw [read] at removed
    cases removed
    rw [← same, truthy] at empty
    cases empty
  | .set latest :: rest, ⟨stored, storing, secret, _⟩ =>
    refine ⟨latest, rest, rfl, ?_⟩
    rw [read] at storing
    cases storing
    have present : ∃ value, Dict.find? stored "signing_secret" = some value := by
      rw [get_readBack, Dict.get] at same
      cases written : Dict.find? stored "signing_secret" with
      | some value => exact ⟨value, rfl⟩
      | none =>
        rw [written] at same
        rw [same] at truthy
        cases truthy
    obtain ⟨value, written⟩ := present
    rw [same, get_readBack, sortKeys_sortKeys, Dict.get, Setting.secret, signingSecret,
      find?_readBack, ← secret, written]
    rfl

/-- **Setting the credential of the connector** adds the call to the history. -/
theorem Tracks.set (tracks : Tracks env connectorId history hub) {actorId : Nat}
    {credentialType : String} {secretPayload : Dict} {rotate : Bool}
    (done : setCredential env hub connectorId credentialType secretPayload actorId rotate now
      draw = .ok after)
    (leaves : CarriesNoOverlap env secretPayload now ∨ ∃ connector previousSecret,
      hub.connectors.get? connectorId = some connector ∧
      supersededSecret env connector.connectorType
        ((hub.credentialOf connectorId).map Prod.snd) secretPayload rotate =
          .ok (some previousSecret)) :
    Tracks env connectorId (.set ⟨secretPayload, rotate, now⟩ :: history) after := by
  obtain ⟨connector, stored, ciphertext, found, -, storing, encrypted, writes, -⟩ :=
    setCredential_ok done
  obtain ⟨place, only⟩ := writes.written tracks.1
  refine ⟨fun key other row another first second =>
    (only key row first).1.trans (only other another second).1.symm, ?_⟩
  intro key row member
  obtain ⟨-, written, -⟩ := only key row member
  refine ⟨stored, ?_, find?_storedPayload storing, ?_⟩
  · rw [written]
    exact decryptSecret_of_encryptSecret encrypted
  intro instant secret ordered granted
  obtain ⟨superseded, superseding, storing⟩ := bind_eq_ok_iff.mp storing
  cases superseded with
  | none =>
    cases storing
    rcases leaves with clean | ⟨other, previousSecret, same, overwritten⟩
    · exact absurd granted (clean.later ordered secret)
    · rw [found] at same
      cases same
      rw [superseding] at overwritten
      cases overwritten
  | some previousSecret =>
    cases storing
    obtain ⟨rotates, previous, rest, same, text⟩ := tracks.superseded superseding
    obtain ⟨force, rfl⟩ := overlapSecret_of_superseded granted
    exact ⟨rotates, force, previous, rest, same, text⟩

/-- **Removing the credential of the connector.** -/
theorem Tracks.remove (tracks : Tracks env connectorId history hub) {token : String}
    (done : removeCredential env hub connectorId now draw token = .ok after) :
    Tracks env connectorId (.removed :: history) after := by
  rcases (removeCredential_ok done).1 with ⟨item, same⟩ | ⟨ciphertext, encrypted, writes⟩
  · have absent : ∀ key row, ¬ after.RowFor connectorId key row := by
      intro key row stored
      rw [InboundHub.RowFor, same] at stored
      exact not_rowFor_of_credentialOf item stored
    exact ⟨fun key _ row _ first _ => absurd first (absent key row),
      fun key row stored => absurd stored (absent key row)⟩
  · obtain ⟨place, only⟩ := writes.written tracks.1
    refine ⟨fun key other row another first second =>
      (only key row first).1.trans (only other another second).1.symm, ?_⟩
    intro key row member
    obtain ⟨-, written, unconfigured⟩ := only key row member
    refine ⟨unconfigured, readBack [("removed", .bool true), ("nonce", .str token)], ?_, ?_⟩
    · rw [written]
      exact decryptSecret_of_encryptSecret encrypted
    · rw [get_readBack]
      rfl

end Steps

/-! ## Runs -/

section Runs

variable {env : HubPlatform Ciphertext} {hub after : InboundHub Ciphertext}
  {connectorId : Nat} {past : List (InboundTransition Ciphertext)} {input : TimedCall}

theorem historyOf_concat (move : InboundTransition Ciphertext) :
    historyOf env connectorId (past ++ [move]) =
      (entryOf env connectorId move).toList ++ historyOf env connectorId past := by
  rw [historyOf, List.filterMap_append, List.reverse_append, historyOf]
  cases added : entryOf env connectorId move with
  | none => simp [added]
  | some entry => simp [added]

theorem Tracks.set_other {history : List CredentialEntry} {reached actorId draw : Nat}
    {credentialType : String} {secretPayload : Dict} {rotate : Bool} {now : Instant}
    (tracks : Tracks env connectorId history hub)
    (done : setCredential env hub reached credentialType secretPayload actorId rotate now
      draw = .ok after) (apart : reached ≠ connectorId) :
    Tracks env connectorId history after := by
  obtain ⟨_, _, _, -, -, -, -, writes, -⟩ := setCredential_ok done
  exact tracks.of_rows fun key row stored => (writes.rowFor_iff apart).mp stored

theorem carriesNoOverlap_form (secret : String) (now : Instant) :
    CarriesNoOverlap env [("signing_secret", .str secret)] now := by
  intro other granted
  have absent := (overlapSecret_eq_some_iff.mp granted).1
  rw [get_readBack] at absent
  cases absent

/-- **One call keeps the credential in step with the history.** -/
theorem Tracks.next (tracks : Tracks env connectorId (historyOf env connectorId past) hub)
    (leaves : LeavesOverlap env connectorId ⟨hub, input, hub.next env input⟩) :
    Tracks env connectorId
      (historyOf env connectorId (past ++ [⟨hub, input, hub.next env input⟩]))
      (hub.next env input) := by
  rw [historyOf_concat]
  obtain ⟨now, call⟩ := input
  cases call with
  | setCredential reached credentialType secretPayload actorId rotate draw =>
    cases result : setCredential env hub reached credentialType secretPayload actorId rotate
        now draw with
    | error fault =>
      simp only [entryOf, InboundHub.next, result, InboundHub.settle]
      exact tracks
    | ok after =>
      simp only [entryOf, InboundHub.next, result, InboundHub.settle]
      by_cases here : reached = connectorId
      · subst here
        rw [if_pos rfl]
        exact tracks.set result (leaves rfl)
      · rw [if_neg here]
        exact tracks.set_other result here
  | createEndpoint payload actorId actorIsAdmin draw =>
    cases result : createInboundEndpoint env hub payload actorId actorIsAdmin now draw with
    | error fault =>
      simp only [entryOf, InboundHub.next, result, InboundHub.settle]
      exact tracks
    | ok after =>
      simp only [entryOf, InboundHub.next, result, InboundHub.settle]
      have done := createInboundEndpoint_ok result
      have same : Tracks env connectorId (historyOf env connectorId past)
          { hub with endpoints := hub.endpoints.insert payload.endpoint } :=
        tracks.of_credentials rfl
      by_cases here : payload.connectorId = connectorId
      · subst here
        rw [if_pos rfl]
        exact same.set done (.inl (carriesNoOverlap_form _ _))
      · rw [if_neg here]
        exact same.set_other done here
  | removeCredential reached draw token =>
    cases result : removeCredential env hub reached now draw token with
    | error fault =>
      simp only [entryOf, InboundHub.next, result, InboundHub.settle]
      exact tracks
    | ok after =>
      simp only [entryOf, InboundHub.next, result, InboundHub.settle]
      by_cases here : reached = connectorId
      · subst here
        rw [if_pos rfl]
        exact tracks.remove result
      · rw [if_neg here]
        rcases (removeCredential_ok result).1 with ⟨-, same⟩ | ⟨ciphertext, -, writes⟩
        · exact tracks.of_credentials same
        · exact tracks.of_rows fun key row stored => (writes.rowFor_iff here).mp stored
  | patchEndpoint endpointId enabled trustedSource actorIsAdmin =>
    refine tracks.of_credentials ?_
    simp only [InboundHub.next, patchInboundEndpoint]
    split
    · rfl
    · split <;> rfl
  | disableEndpoint endpointId =>
    refine tracks.of_credentials ?_
    simp only [InboundHub.next, disableEndpoint]
    split <;> rfl
  | ingest endpointId body headers =>
    refine tracks.of_credentials ?_
    simp only [InboundHub.next, ingestInbound]
    repeat' split
    all_goals rfl
  | reject eventId =>
    refine tracks.of_credentials ?_
    simp only [InboundHub.next, rejectInbound]
    split <;> rfl
  | promote eventId targetType =>
    refine tracks.of_credentials ?_
    simp only [InboundHub.next, promoteInbound]
    repeat' split
    all_goals rfl
  | processDue batchSize => exact tracks.of_credentials rfl
  | retainNonces chosen => exact tracks.of_credentials rfl
  | retainEvents chosen retentionDays => exact tracks.of_credentials rfl

theorem time_of_mem_historyOf {setting : Setting}
    (member : .set setting ∈ historyOf env connectorId past) :
    ∃ move ∈ past, setting.time = move.input.now := by
  obtain ⟨move, place, entry⟩ :=
    List.mem_filterMap.mp (List.mem_reverse.mp member)
  refine ⟨move, place, ?_⟩
  unfold entryOf at entry
  dsimp only at entry
  split at entry
  · split at entry
    · split at entry
      · cases entry
        rfl
      · cases entry
    · cases entry
  · split at entry
    · split at entry
      · cases entry
        rfl
      · cases entry
    · cases entry
  · split at entry
    · split at entry <;> cases entry
    · cases entry
  · cases entry

/-- **The run lemma**: the credential follows the history of the calls. -/
theorem tracks_of_run {start : InboundHub Ciphertext}
    (fresh : ∀ key row, ¬ start.RowFor connectorId key row) (calls : List TimedCall) :
    (∀ move ∈ trace (InboundHub.next env) start calls,
        LeavesOverlap env connectorId move) →
      Tracks env connectorId
        (historyOf env connectorId (trace (InboundHub.next env) start calls))
        (final (InboundHub.next env) start calls) := by
  refine run_induction (InboundHub.next env)
    (motive := fun past hub => (∀ move ∈ past, LeavesOverlap env connectorId move) →
      Tracks env connectorId (historyOf env connectorId past) hub) ?_ ?_ calls
  · intro _
    exact ⟨fun key _ row _ first _ => absurd first (fresh key row), fresh⟩
  · intro past hub input ih leaves
    exact (ih fun move member => leaves move (List.mem_append_left _ member)).next
      (leaves _ (List.mem_append_right _ (List.mem_singleton_self _)))

/-! ## Accepted secrets -/

/-- The signature of a request is that of a secret. -/
def SignedWith (env : HubPlatform Ciphertext) (secret : String) (request : Presented)
    (body : List UInt8) : Prop :=
  signHmac env secret request.timestamp body = Text.strip request.signature

/-- A request that an endpoint of a connector accepts. -/
def acceptedFor (env : HubPlatform Ciphertext) (connectorId : Nat)
    (move : InboundTransition Ciphertext) : Option (Presented × List UInt8) :=
  match move.input.call with
  | .ingest endpointId body headers =>
    match (ingestInbound env move.before endpointId body headers
        move.input.now).2 with
    | .ok _ =>
      if (move.before.endpoints.get? endpointId).map
          ConnectorInboundEndpoint.connectorId = some connectorId then
        some (headers.presented env.py, body)
      else none
    | .error _ => none
  | _ => none

theorem acceptedFor_ingest (before after : InboundHub Ciphertext) (now : Instant)
    (endpointId : Nat) (body : List UInt8) (headers : Headers) :
    acceptedFor env connectorId ⟨before, ⟨now, .ingest endpointId body headers⟩, after⟩ =
      match (ingestInbound env before endpointId body headers now).2 with
      | .ok _ =>
        if (before.endpoints.get? endpointId).map ConnectorInboundEndpoint.connectorId =
            some connectorId then some (headers.presented env.py, body) else none
      | .error _ => none := rfl

/-- Every request that endpoints of the connector accept is signed with a secret that the
calls made so far permit at its time. -/
def OnlyPermitted (env : HubPlatform Ciphertext) (connectorId : Nat)
    (transitions : List (InboundTransition Ciphertext)) : Prop :=
  ∀ past move rest, transitions = past ++ move :: rest → ∀ request body,
    acceptedFor env connectorId move = some (request, body) →
      ∃ secret, SignedWith env secret request body ∧
        Permitted env.py (historyOf env connectorId past) move.input.now secret

theorem signedWith_of_verifyHmac {secret : String} {request : Presented} {body : List UInt8}
    (verified : verifyHmac env secret request.timestamp body request.signature = .ok true) :
    SignedWith env secret request body := by
  unfold verifyHmac at verified
  split at verified
  · cases verified
  · simp only [Except.ok.injEq, beq_iff_eq] at verified
    exact verified

/-- **An authenticated request** is signed with the secret of the credential or with the one
in its overlap. -/
theorem signedWith_of_verifySignature {fields : Dict} {request : Presented} {body : List UInt8}
    {now : Instant} (verified : verifySignature env fields request body now = .ok true) :
    ∃ secret, SignedWith env secret request body ∧
      (secret = signingSecret env.py fields ∨
        overlapSecret env fields now = .ok (some secret)) := by
  obtain ⟨valid, first, verified⟩ := bind_eq_ok_iff.mp verified
  cases valid with
  | true => exact ⟨_, signedWith_of_verifyHmac first, .inl rfl⟩
  | false =>
    obtain ⟨overlap, granted, verified⟩ := bind_eq_ok_iff.mp verified
    cases overlap with
    | none => cases verified
    | some secret => exact ⟨secret, signedWith_of_verifyHmac verified, .inr granted⟩

/-- An examined request was authenticated with the connector's configured credential. -/
theorem authenticated_of_examine {endpointId : Nat} {endpoint : ConnectorInboundEndpoint}
    {request : Presented} {body : List UInt8} {now : Instant} {examined : Examined}
    (checks : examine env hub endpointId endpoint request body now = .ok examined) :
    ∃ key row fields, hub.configuredCredential endpoint.connectorId = some (key, row) ∧
      decryptSecret env row.encryptedPayload = .ok fields ∧
      verifySignature env fields request body now = .ok true := by
  obtain ⟨⟨⟩, -, checks⟩ := bind_eq_ok_iff.mp checks
  obtain ⟨⟨⟩, authentic, -⟩ := bind_eq_ok_iff.mp checks
  unfold authenticate at authentic
  split at authentic
  · cases authentic
  · rename_i key row item
    obtain ⟨fields, read, authentic⟩ := bind_eq_ok_iff.mp authentic
    obtain ⟨valid, verified, authentic⟩ := bind_eq_ok_iff.mp authentic
    cases valid with
    | false => cases authentic
    | true => exact ⟨key, row, fields, item, read, verified⟩

theorem acceptedFor_spec {move : InboundTransition Ciphertext} {request : Presented}
    {body : List UInt8} (accepted : acceptedFor env connectorId move = some (request, body)) :
    ∃ key row fields, move.before.RowFor connectorId key row ∧ row.configured = true ∧
      decryptSecret env row.encryptedPayload = .ok fields ∧
      verifySignature env fields request body move.input.now = .ok true := by
  obtain ⟨before, ⟨now, call⟩, after⟩ := move
  cases call with
  | ingest endpointId sent headers =>
    rcases ingestInbound_cases env before endpointId sent headers now with
      ⟨fault, refused, -⟩ | ⟨endpoint, examined, stored, found, checks, -, ok, -⟩
    · rw [acceptedFor_ingest, refused] at accepted
      cases accepted
    · rw [acceptedFor_ingest, ok, found] at accepted
      obtain ⟨owner, same⟩ := Option.ite_none_right_eq_some.mp accepted
      obtain ⟨rfl, rfl⟩ := Prod.mk.inj (Option.some.inj same)
      rw [Option.map_some, Option.some.injEq] at owner
      obtain ⟨key, row, fields, item, read, verified⟩ := authenticated_of_examine checks
      obtain ⟨mine, configured⟩ := rowFor_of_configuredCredential item
      rw [owner] at mine
      exact ⟨key, row, fields, mine, configured, read, verified⟩
  | _ => cases accepted

theorem Tracks.permitted {history : List CredentialEntry} {now : Instant} {key : Nat}
    {row : ConnectorCredential Ciphertext} {fields : Dict} {secret : String}
    (tracks : Tracks env connectorId history hub)
    (mine : hub.RowFor connectorId key row) (configured : row.configured = true)
    (read : decryptSecret env row.encryptedPayload = .ok fields)
    (passed : ∀ setting, .set setting ∈ history → setting.time ≤ now)
    (signs : secret = signingSecret env.py fields ∨
      overlapSecret env fields now = .ok (some secret)) :
    Permitted env.py history now secret := by
  have held := tracks.2 key row mine
  cases history with
  | nil => exact False.elim held
  | cons entry earlier =>
    cases entry with
    | removed =>
      obtain ⟨unconfigured, -⟩ := held
      rw [configured] at unconfigured
      cases unconfigured
    | set latest =>
      obtain ⟨stored, storing, same, bounded⟩ := held
      rw [read] at storing
      cases storing
      rcases signs with rfl | granted
      · refine .inl ?_
        rw [signingSecret, find?_readBack, same, Setting.secret, signingSecret, find?_readBack]
      · exact .inr (bounded now secret (passed latest (List.mem_cons_self ..)) granted)

end Runs

/-- **The overlap of a rotation is bounded.** In every run whose clock does not run backwards
and whose calls leave the overlap of the connector's credential to the service, every request
its endpoints accept is signed with the secret of the latest call, or within five minutes of
a rotation with the secret of the call before it. -/
theorem accepted_secrets (env : HubPlatform Ciphertext) (start : InboundHub Ciphertext)
    (connectorId : Nat) (fresh : ∀ key row, ¬ start.RowFor connectorId key row)
    (calls : List TimedCall) (ordered : Chronological calls)
    (leaves : ∀ move ∈ trace (InboundHub.next env) start calls,
      LeavesOverlap env connectorId move) :
    OnlyPermitted env connectorId (trace (InboundHub.next env) start calls) := by
  intro past move rest splits request body accepted
  obtain ⟨first, input, second, rfl, rfl, rfl⟩ := exists_split_of_trace_eq _ splits
  have tracks : Tracks env connectorId
      (historyOf env connectorId (trace (InboundHub.next env) start first))
      (final (InboundHub.next env) start first) := by
    refine tracks_of_run fresh first fun earlier member => leaves earlier ?_
    rw [trace_append]
    exact List.mem_append_left _ member
  have inOrder : InOrder (trace (InboundHub.next env) start _) := inOrder_trace ordered
  rw [InOrder, splits, List.pairwise_append] at inOrder
  obtain ⟨key, row, fields, mine, configured, read, verified⟩ := acceptedFor_spec accepted
  obtain ⟨secret, signed, signs⟩ := signedWith_of_verifySignature verified
  refine ⟨secret, signed, tracks.permitted mine configured read (fun setting member => ?_) signs⟩
  obtain ⟨earlier, place, time⟩ := time_of_mem_historyOf member
  rw [time]
  exact inOrder.2.2 earlier place _ (List.mem_cons_self ..)

/-- Set the signing secret of the sample connector a minute after noon. -/
def secretCall (secretPayload : Dict) (rotate : Bool) : TimedCall :=
  ⟨noon + minutes 1, .setCredential 1 "hmac" secretPayload 1 rotate 1⟩

/-- A rotation, and a request that is still signed with the first secret. -/
def rotationCalls : List TimedCall :=
  [createCall, secretCall [("signing_secret", .str "second-signing-secret")] true,
    signedCall "first-signing-secret" "event-1" 120000000]

theorem leavesOverlap_rotationCalls :
    ∀ move ∈ trace (InboundHub.next plainHubPlatform) oneConnector rotationCalls,
      LeavesOverlap plainHubPlatform 1 move := by
  intro move member
  have called := input_mem_of_mem_trace _ member
  obtain ⟨before, input, after⟩ := move
  simp only [rotationCalls, List.mem_cons, List.not_mem_nil, or_false] at called
  rcases called with rfl | rfl | rfl
  · trivial
  · exact fun _ => .inl (carriesNoOverlap_form _ _)
  · trivial

theorem accepted_secrets_rotated :
    (acceptedFor plainHubPlatform 1 ((trace (InboundHub.next plainHubPlatform) oneConnector
        rotationCalls).getD 2 ⟨oneConnector, createCall, oneConnector⟩)).isSome = true ∧
      OnlyPermitted plainHubPlatform 1
        (trace (InboundHub.next plainHubPlatform) oneConnector rotationCalls) := by
  refine ⟨by decide +kernel, accepted_secrets plainHubPlatform oneConnector 1 ?_ rotationCalls
    ?_ leavesOverlap_rotationCalls⟩
  · rintro key row ⟨stored, -⟩
    cases stored
  · unfold Chronological
    decide

/-- An object with an overlap of the caller's own. -/
def forgedOverlap : Dict :=
  [("signing_secret", .str "second-signing-secret"),
    ("_previous_signing_secret", .str "never-set"),
    ("_previous_valid_until", .str "9999-12-31T23:59:59")]

/-- A plain configuration stores the object, and a request is signed with the secret it
names. -/
def forgedCalls : List TimedCall :=
  [createCall, secretCall forgedOverlap false, signedCall "never-set" "event-1" 61000000]

theorem historyOf_forgedCalls :
    (historyOf plainHubPlatform 1
      (trace (InboundHub.next plainHubPlatform) oneConnector (forgedCalls.take 2))).head? =
        some (.set ⟨forgedOverlap, false, noon + minutes 1⟩) := by
  rfl

/-- **A secret that was never set is accepted.** -/
theorem forged_overlap :
    Chronological forgedCalls ∧ ¬ OnlyPermitted plainHubPlatform 1
      (trace (InboundHub.next plainHubPlatform) oneConnector forgedCalls) := by
  refine ⟨by unfold Chronological; decide, fun only => ?_⟩
  obtain ⟨secret, signed, permitted⟩ := only
    (trace (InboundHub.next plainHubPlatform) oneConnector (forgedCalls.take 2)) _ [] rfl
    ((signedHeaders "never-set" "event-1").presented plainHubPlatform.py) [123, 125] (by rfl)
  have latest := historyOf_forgedCalls
  cases entries : historyOf plainHubPlatform 1
      (trace (InboundHub.next plainHubPlatform) oneConnector (forgedCalls.take 2)) with
  | nil =>
    rw [entries] at latest
    cases latest
  | cons entry earlier =>
    rw [entries] at latest permitted
    cases Option.some.inj latest
    rcases permitted with same | ⟨rotated, -⟩
    · rw [same] at signed
      revert signed
      unfold SignedWith
      decide +kernel
    · cases rotated

end ThreatScope.Integrations
