import ThreatScope.Analytics.Records

/-!
# Suppressions

`analytics/suppressions.py` with the functions of the service that create a suppression and
change it. A scope is checked as the dictionary that a request brings, and stored as the
columns that its values leave. What is stored is compared with an anomaly in five of the ten
dimensions.
-/

set_option autoImplicit false

namespace ThreatScope.Analytics

open Library AccessControl

/-! ## The scope of a request -/

def maxDuration : Nat := 90 * 86400

def emergencyMaxDuration : Nat := 4 * 3600

def allowedFields : List String :=
  ["detector_id", "source_entity_type", "source_entity_identifier", "approved_tag",
    "connector_id", "asset_id", "api_endpoint_id", "alert_source", "minimum_score",
    "maximum_score"]

def protectedTokens : List String :=
  ["race", "ethnicity", "religion", "sex", "gender", "disability", "political", "health"]

/-- The float `1e300`. -/
def safeBound : Rat := 1681218273811815 * 2 ^ 946

section Runtime

variable (env : AnalyticsRuntime)

def finite (nonNegative : Bool) (value : Json) : Except ServiceError Rat := do
  let result ← match value with
    | .int value =>
      match env.toFloat value with
      | some result => pure result
      | none => throw (.raised "OverflowError")
    | .float value => pure value
    | _ => throw (.valueError "Feature values must be numeric")
  if nonNegative = true ∧ result < 0 then
    throw (.valueError "Negative values are invalid for this feature")
  else if safeBound < |result| then
    throw (.valueError "Feature value exceeds the safe numeric bound")
  else return result

/-- `finite(scope[key], non_negative=True)` unless it is `None`. -/
def finiteScore (value : Json) : Except ServiceError (Option Rat) :=
  match value with
  | .null => return none
  | value => return some (← finite env true value)

/-- The text that is searched for protected attributes. -/
def scopeText (scope : Dict) : String :=
  String.intercalate " "
    (scope.map fun field => env.casefold (env.toInterpreter.str field.2))

/-- A wildcard or an oversized text. -/
def isWildcard : Json → Bool
  | .str value => Text.contains value "*" || 200 < value.length
  | _ => false

/-- A scope without a detector, an entity, a connector, an asset and an endpoint. -/
def isBroad (scope : Dict) : Bool :=
  !(Dict.get scope "detector_id").truthy &&
    !(Dict.get scope "source_entity_identifier").truthy &&
    !(Dict.get scope "connector_id").truthy && !(Dict.get scope "asset_id").truthy &&
    !(Dict.get scope "api_endpoint_id").truthy

/-- `validate_scope`, with `broad_scope`. -/
def validateScope (scope : Dict) (isAdmin : Bool) : Except ServiceError Bool := do
  if (scope.any fun field => !allowedFields.contains field.1) = true then
    throw (.valueError "Suppression contains an unsupported declarative dimension")
  else if scope.isEmpty = true then throw (.valueError "Suppression scope cannot be empty")
  else if (protectedTokens.any fun token => Text.contains (scopeText env scope) token) = true
  then throw (.valueError "Protected-attribute suppression scopes are prohibited")
  else if (scope.any fun field => isWildcard field.2) = true then
    throw (.valueError "Wildcard or oversized suppression scope is prohibited")
  else if isBroad scope = true ∧ isAdmin = false then
    throw (.permissionError "Administrator approval is required for broad suppressions")
  else
    let _ ← finiteScore env (Dict.get scope "minimum_score")
    let _ ← finiteScore env (Dict.get scope "maximum_score")
    match (Dict.get scope "minimum_score").number?, (Dict.get scope "maximum_score").number? with
    | some low, some high =>
      if high < low then throw (.valueError "Suppression score range is invalid")
      else return isBroad scope
    | _, _ => return isBroad scope

def validatePeriod (start finish : Instant) (emergency : Bool) : Except ServiceError Nat :=
  let maximum := if emergency then emergencyMaxDuration else maxDuration
  let duration := Int.tdiv (finish - start) 1000000
  if duration ≤ 0 ∨ (maximum : Int) < duration then
    throw (.valueError "Suppression duration exceeds the server-owned bound")
  else return maximum

/-! ## The columns of a suppression -/

/-- The largest integer that the driver binds. -/
def maxInteger : Int := 2 ^ 63 - 1

/-- A value of a foreign key: what the column keeps, which must be a key of the table it
refers to. -/
def storedKey (keys : List Nat) (value : Json) : Except ServiceError (Option Nat) :=
  let refers (kept : Option Int) : Except ServiceError (Option Nat) :=
    match kept with
    | some key =>
      if 0 ≤ key ∧ keys.contains key.toNat = true then return some key.toNat
      else throw (.raised "IntegrityError")
    | none => throw (.raised "IntegrityError")
  match value with
  | .null => return none
  | .bool value => refers (some (if value then 1 else 0))
  | .int value =>
    if value < -maxInteger - 1 ∨ maxInteger < value then throw (.raised "OverflowError")
    else refers (some value)
  | .float _ | .str _ => refers (env.integerAffinity value)
  | .arr _ | .obj _ => throw (.raised "InterfaceError")

/-- A value of a text column. -/
def storedText (value : Json) : Except ServiceError (Option String) :=
  match value with
  | .null => return none
  | .str value => return some value
  | .int number =>
    if number < -maxInteger - 1 ∨ maxInteger < number then throw (.raised "OverflowError")
    else return some (env.textAffinity value)
  | .bool _ | .float _ => return some (env.textAffinity value)
  | .arr _ | .obj _ => throw (.raised "InterfaceError")

/-- The columns of a scope. -/
def storedScope (store : AnomalyStore) (scope : Dict) : Except ServiceError SuppressionScope := do
  return {
    detectorId := ← storedKey env (store.detectors.rows.map Prod.fst)
      (Dict.get scope "detector_id")
    sourceEntityType := ← storedText env (Dict.get scope "source_entity_type")
    sourceEntityIdentifier := ← storedText env (Dict.get scope "source_entity_identifier")
    approvedTag := ← storedText env (Dict.get scope "approved_tag")
    connectorId := ← storedKey env store.connectorIds (Dict.get scope "connector_id")
    assetId := ← storedKey env store.assetIds (Dict.get scope "asset_id")
    apiEndpointId := ← storedKey env store.apiEndpointIds (Dict.get scope "api_endpoint_id")
    alertSource := ← storedText env (Dict.get scope "alert_source")
    minimumScore := ← finiteScore env (Dict.get scope "minimum_score")
    maximumScore := ← finiteScore env (Dict.get scope "maximum_score") }

/-! ## Handlers -/

/-- `SuppressionCreate`, with both times in UTC. -/
structure SuppressionCreate where
  scope : Dict
  reason : String
  startsAt : Instant
  endsAt : Instant
  emergency : Bool := false
  demoOwned : Bool := false

/-- `create_suppression`. The scope loses `broad_scope` before the approval state asks for it,
so every suppression is approved. -/
def createSuppression (store : AnomalyStore) (payload : SuppressionCreate) (actor : Actor)
    (now : Instant) : Except ServiceError AnomalyStore := do
  let broad ← validateScope env payload.scope actor.isSystemAdmin
  let maximum ← validatePeriod payload.startsAt payload.endsAt payload.emergency
  let scope ← storedScope env store payload.scope
  let item : AnalyticsSuppression := {
    scope with
    ownerUserId := actor.id
    reason := payload.reason
    approvalState := .approved
    broadScope := broad
    emergency := payload.emergency
    startsAt := payload.startsAt
    endsAt := payload.endsAt
    maximumDurationSeconds := maximum
    demoOwned := payload.demoOwned
    lastReviewedAt := now }
  return { store with suppressions := store.suppressions.insert item }

end Runtime

/-- `SuppressionPatch`. -/
structure SuppressionPatch where
  optimisticLockVersion : Nat
  reason : Option String := none
  endsAt : Option Instant := none
  enabled : Option Bool := none

/-- The period of a suppression is checked again when its end changes. -/
def patchedPeriod (item : AnalyticsSuppression) (payload : SuppressionPatch) :
    Except ServiceError Nat :=
  match payload.endsAt with
  | some endsAt => validatePeriod item.startsAt endsAt item.emergency
  | none => return item.maximumDurationSeconds

def patchSuppression (store : AnomalyStore) (itemId : Nat) (payload : SuppressionPatch)
    (now : Instant) : Except ServiceError AnomalyStore :=
  match store.suppressions.get? itemId with
  | none => throw (.http 404 "Suppression not found")
  | some item =>
    if item.optimisticLockVersion ≠ payload.optimisticLockVersion then
      throw (.http 409 "Optimistic-lock conflict")
    else do
      let _ ← patchedPeriod item payload
      return { store with
        suppressions := store.suppressions.modify itemId fun item =>
          { item with
            optimisticLockVersion := payload.optimisticLockVersion + 1
            reason := payload.reason.getD item.reason
            endsAt := payload.endsAt.getD item.endsAt
            enabled := payload.enabled.getD item.enabled
            lastReviewedAt := now } }

def disableSuppression (store : AnomalyStore) (itemId : Nat) (now : Instant) :
    Except ServiceError AnomalyStore :=
  match store.suppressions.get? itemId with
  | none => throw (.http 404 "Suppression not found")
  | some _ =>
    return { store with
      suppressions := store.suppressions.modify itemId fun item =>
        { item with
          enabled := false
          lastReviewedAt := now
          optimisticLockVersion := item.optimisticLockVersion + 1 } }

/-! ## Matching -/

/-- What a suppression is compared with: an anomaly that is about to be stored. -/
structure Candidate where
  detectorId : Nat
  entityType : String
  entityIdentifier : String
  score : Rat
  now : Instant

/-- `item.column and item.column != value`. -/
def differs {α : Type} [DecidableEq α] (unset : α) (column : Option α) (value : α) : Bool :=
  match column with
  | some wanted => wanted ≠ unset && wanted ≠ value
  | none => false

/-- `matches`. -/
def AnalyticsSuppression.isMatch (item : AnalyticsSuppression) (candidate : Candidate) : Bool :=
  if !item.enabled || candidate.now < item.startsAt || item.endsAt ≤ candidate.now then false
  else if differs 0 item.detectorId candidate.detectorId then false
  else if differs "" item.sourceEntityType candidate.entityType then false
  else if differs "" item.sourceEntityIdentifier candidate.entityIdentifier then false
  else if item.minimumScore.any fun minimum => candidate.score < minimum then false
  else if item.maximumScore.any fun maximum => maximum < candidate.score then false
  else true

/-- `_suppression`: the first of the first hundred suppressions in their period that
matches. -/
def suppression (store : AnomalyStore) (candidate : Candidate) :
    Option (Nat × AnalyticsSuppression) :=
  ((store.suppressions.rows.filter fun row =>
      row.2.enabled && row.2.startsAt ≤ candidate.now && candidate.now < row.2.endsAt).take
    100).find? fun row => row.2.isMatch candidate

end ThreatScope.Analytics
