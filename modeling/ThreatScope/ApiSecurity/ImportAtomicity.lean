import ThreatScope.ApiSecurity.Records

/-!
# Imports are atomic until an analysis

A definition replaces the inventory of an assessment, or the inventory and what refers to it stay
as they were, exactly when no finding or suppression holds an endpoint of the assessment, or
nothing else refers to one and the definition could not have been imported anyway
(`importDefinition_atomic_iff`).
-/

set_option autoImplicit false

namespace ThreatScope.ApiSecurity

open Library

/-! ## References -/

namespace ApiDatabase

/-- The references to endpoints, as the database enforces them. -/
structure References (db : ApiDatabase) : Prop where
  findings : ∀ row ∈ db.findings.rows, ∀ key, row.2.endpointId = some key →
    (db.endpoints.get? key).isSome = true
  reviews : ∀ row ∈ db.reviews.rows,
    (db.endpoints.get? row.2.endpointId).isSome = true
  matrix : ∀ row ∈ db.matrix.rows,
    (db.endpoints.get? row.2.endpointId).isSome = true
  steps : ∀ row ∈ db.steps.rows, ∀ key, row.2.endpointId = some key →
    (db.endpoints.get? key).isSome = true
  suppressions : ∀ row ∈ db.suppressions.rows, ∀ key, row.2 = some key →
    (db.endpoints.get? key).isSome = true

/-- Some finding or suppression refers to an endpoint of an assessment. -/
def Held (db : ApiDatabase) (assessmentId : Nat) : Prop :=
  (∃ row ∈ db.findings.rows, db.refersTo assessmentId row.2.endpointId = true) ∨
    ∃ row ∈ db.suppressions.rows, db.refersTo assessmentId row.2 = true

/-- A finding of another assessment or a suppression refers to an endpoint of an assessment. -/
def HeldByOthers (db : ApiDatabase) (assessmentId : Nat) : Prop :=
  (∃ row ∈ db.findings.rows, row.2.assessmentId ≠ assessmentId ∧
      db.refersTo assessmentId row.2.endpointId = true) ∨
    ∃ row ∈ db.suppressions.rows, db.refersTo assessmentId row.2 = true

/-- No review, matrix entry or flow step refers to an endpoint of an assessment. -/
structure Unlinked (db : ApiDatabase) (assessmentId : Nat) : Prop where
  reviews : ∀ row ∈ db.reviews.rows,
    db.isEndpointOf assessmentId row.2.endpointId = false
  matrix : ∀ row ∈ db.matrix.rows,
    db.isEndpointOf assessmentId row.2.endpointId = false
  steps : ∀ row ∈ db.steps.rows,
    db.refersTo assessmentId row.2.endpointId = false

/-- The operations of an assessment. -/
def operationsOf (db : ApiDatabase) (assessmentId : Nat) : List Operation :=
  (db.endpoints.rows.filter fun row => row.2.assessmentId == assessmentId).map
    fun row => row.2.toOperation

/-- The database as it would be had the assessment not been analysed. -/
def unanalysed (db : ApiDatabase) (assessmentId : Nat) : ApiDatabase :=
  { db with
    findings := db.findings.deleteWhere fun _ finding =>
      finding.assessmentId == assessmentId }

end ApiDatabase

open ApiDatabase

/-- An import that replaces the inventory, or fails and leaves it alone, and is not refused for
the findings of an analysis. -/
structure ReplacesAtomically (binds : ApiDefinition → Bool) (db : ApiDatabase)
    (assessmentId : Nat) (artifactType : ArtifactType) (filename : String) (parsed : Parsed) :
    Prop where
  replaced : (importDefinition binds db assessmentId artifactType filename
      parsed).failure = none → ∃ definition, parsed = .definition definition ∧
    (importDefinition binds db assessmentId artifactType filename
      parsed).db.operationsOf assessmentId = definition.endpoints ∧
    (importDefinition binds db assessmentId artifactType filename
      parsed).db.References
  kept : (importDefinition binds db assessmentId artifactType filename
      parsed).failure ≠ none →
    (importDefinition binds db assessmentId artifactType filename
        parsed).db.endpoints = db.endpoints ∧
      (importDefinition binds db assessmentId artifactType filename
        parsed).db.artifacts = db.artifacts ∧
      (importDefinition binds db assessmentId artifactType filename
        parsed).db.reviews = db.reviews ∧
      (importDefinition binds db assessmentId artifactType filename
        parsed).db.matrix = db.matrix ∧
      (importDefinition binds db assessmentId artifactType filename
        parsed).db.steps = db.steps
  welcome : (importDefinition binds (db.unanalysed assessmentId) assessmentId artifactType
      filename parsed).failure = none →
    (importDefinition binds db assessmentId artifactType filename parsed).failure = none

/-! ## Tables that a deletion leaves alone -/

section Tables

variable {α : Type}

theorem deleteWhere_eq_self_iff (table : Table α) (test : Nat → α → Bool) :
    table.deleteWhere test = table ↔ ∀ row ∈ table.rows, test row.1 row.2 = false := by
  have rows : table.deleteWhere test = table ↔
      table.rows.filter (fun row => !test row.1 row.2) = table.rows := by
    constructor
    · exact congrArg Table.rows
    · intro same
      obtain ⟨nextKey, rows, bounded, distinct⟩ := table
      simp only [Table.deleteWhere, Table.mk.injEq, true_and]
      exact same
  rw [rows, List.filter_eq_self]
  simp

theorem update_eq_self {table : Table α} {change : Nat → α → α}
    (kept : ∀ row ∈ table.rows, change row.1 row.2 = row.2) : table.update change = table := by
  have rows : (table.update change).rows = table.rows := by
    refine (List.map_congr_left fun row member => ?_).trans (List.map_id table.rows)
    exact Prod.ext rfl (kept row member)
  obtain ⟨nextKey, rows', bounded, distinct⟩ := table
  simp only [Table.update, Table.mk.injEq, true_and] at rows ⊢
  exact rows

theorem exists_get?_deleteWhere {table : Table α} {test : Nat → α → Bool} {key : Nat}
    (stored : (table.get? key).isSome = true) (kept : (table.get? key).any (test key) = false) :
    ((table.deleteWhere test).get? key).isSome = true := by
  obtain ⟨value, found⟩ := Option.isSome_iff_exists.mp stored
  rw [Table.get?_deleteWhere, found, Option.filter_some_pos]
  · rfl
  · rw [found] at kept
    simpa using kept

theorem rows_foldl_insert {β : Type} (make : β → α) (items : List β) (table : Table α) :
    ∃ keys : List Nat, keys.length = items.length ∧
      (items.foldl (fun table item => table.insert (make item)) table).rows =
        table.rows ++ keys.zip (items.map make) := by
  induction items generalizing table with
  | nil => exact ⟨[], rfl, (List.append_nil _).symm⟩
  | cons item rest ih =>
    obtain ⟨keys, length, rows⟩ := ih (table.insert (make item))
    refine ⟨table.nextKey :: keys, by simp [length], ?_⟩
    rw [List.foldl_cons, rows]
    simp [Table.insert]

theorem isSome_get?_foldl_insert {β : Type} (make : β → α) (items : List β) {table : Table α}
    {key : Nat} (stored : (table.get? key).isSome = true) :
    ((items.foldl (fun table item => table.insert (make item)) table).get? key).isSome = true := by
  induction items generalizing table with
  | nil => exact stored
  | cons item rest ih =>
    refine ih ?_
    obtain ⟨value, found⟩ := Option.isSome_iff_exists.mp stored
    have here := ne_of_lt (Table.lt_nextKey_of_get? found)
    rw [Table.get?_insert_of_ne _ _ here]
    exact stored

end Tables

/-! ## Clearing the references -/

section Clearing

variable (db : ApiDatabase) (assessmentId : Nat)

theorem clearReferences_reviews :
    (db.clearReferences assessmentId).reviews =
      (db.reviews.deleteWhere fun _ review =>
        db.isEndpointOf assessmentId review.endpointId).update fun _ review =>
          { review with
            matrixEntryId := review.matrixEntryId.filter fun key =>
              !(db.matrix.get? key).any fun entry =>
                db.isEndpointOf assessmentId entry.endpointId } := rfl

theorem clearReferences_steps :
    (db.clearReferences assessmentId).steps = db.steps.update fun _ step =>
      { step with
        endpointId := step.endpointId.filter fun key =>
          !db.isEndpointOf assessmentId key } := rfl

theorem reviews_clearReferences {row : Nat × AuthorizationReview}
    (member : row ∈ (db.clearReferences assessmentId).reviews.rows) :
    ∃ old ∈ db.reviews.rows, row.2.endpointId = old.2.endpointId ∧
      db.isEndpointOf assessmentId old.2.endpointId = false := by
  obtain ⟨old, kept, rfl⟩ := List.mem_map.mp member
  obtain ⟨stored, other⟩ := List.mem_filter.mp kept
  exact ⟨old, stored, rfl, by simpa using other⟩

theorem matrix_clearReferences {row : Nat × AuthorizationMatrixEntry}
    (member : row ∈ (db.clearReferences assessmentId).matrix.rows) :
    row ∈ db.matrix.rows ∧ db.isEndpointOf assessmentId row.2.endpointId = false := by
  obtain ⟨stored, other⟩ := List.mem_filter.mp member
  exact ⟨stored, (Bool.not_eq_true' _).mp other⟩

theorem steps_clearReferences {row : Nat × ApiBusinessFlowStep}
    (member : row ∈ (db.clearReferences assessmentId).steps.rows) {key : Nat}
    (named : row.2.endpointId = some key) :
    ∃ old ∈ db.steps.rows, old.2.endpointId = some key ∧
      db.isEndpointOf assessmentId key = false := by
  obtain ⟨old, stored, rfl⟩ := List.mem_map.mp member
  obtain ⟨same, other⟩ := Option.filter_eq_some_iff.mp named
  exact ⟨old, stored, same, (Bool.not_eq_true' _).mp other⟩

variable {db assessmentId}

theorem isEndpointOf_of_none
    (none : (db.endpoints.rows.any fun row => row.2.assessmentId == assessmentId) = false)
    (key : Nat) : db.isEndpointOf assessmentId key = false := by
  rw [List.any_eq_false] at none
  unfold ApiDatabase.isEndpointOf
  cases found : db.endpoints.get? key with
  | none => rfl
  | some endpoint =>
    have member := (db.endpoints.get?_eq_some_iff key endpoint).mp found
    simpa using none (key, endpoint) member

theorem isHeld_iff_of_unlinked
    (reviews : ∀ row ∈ db.reviews.rows,
      db.isEndpointOf assessmentId row.2.endpointId = false)
    (matrix : ∀ row ∈ db.matrix.rows,
      db.isEndpointOf assessmentId row.2.endpointId = false) :
    db.isHeld assessmentId = true ↔ db.Held assessmentId := by
  have noReview : (db.reviews.rows.any fun row =>
      db.isEndpointOf assessmentId row.2.endpointId) = false :=
    List.any_eq_false.mpr fun row member => by rw [reviews row member]; simp
  have noEntry : (db.matrix.rows.any fun row =>
      db.isEndpointOf assessmentId row.2.endpointId) = false :=
    List.any_eq_false.mpr fun row member => by rw [matrix row member]; simp
  rw [ApiDatabase.isHeld, noReview, noEntry, Bool.or_false, Bool.or_false, Bool.or_eq_true,
    List.any_eq_true, List.any_eq_true]
  exact .rfl

theorem isHeld_clearReferences :
    (db.clearReferences assessmentId).isHeld assessmentId = true ↔
      db.Held assessmentId := by
  refine (isHeld_iff_of_unlinked (fun row member => ?_) fun row member => ?_).trans .rfl
  · obtain ⟨old, -, same, other⟩ := reviews_clearReferences db assessmentId member
    rw [same]
    exact other
  · exact (matrix_clearReferences db assessmentId member).2

/-- **Clearing leaves everything exactly when nothing refers to the endpoints.** -/
theorem clearReferences_eq_iff :
    ((db.clearReferences assessmentId).reviews = db.reviews ∧
      (db.clearReferences assessmentId).matrix = db.matrix ∧
      (db.clearReferences assessmentId).steps = db.steps) ↔
      db.Unlinked assessmentId := by
  constructor
  · rintro ⟨reviews, matrix, steps⟩
    refine ⟨fun row member => ?_, fun row member => ?_, fun row member => ?_⟩
    · rw [← reviews] at member
      obtain ⟨old, -, same, other⟩ := reviews_clearReferences db assessmentId member
      rw [same]
      exact other
    · rw [← matrix] at member
      exact (matrix_clearReferences db assessmentId member).2
    · rw [← steps] at member
      cases named : row.2.endpointId with
      | none => rfl
      | some key =>
        obtain ⟨-, -, -, other⟩ := steps_clearReferences db assessmentId member named
        exact other
  · rintro ⟨reviews, matrix, steps⟩
    have kept := (deleteWhere_eq_self_iff db.reviews fun _ review =>
      db.isEndpointOf assessmentId review.endpointId).mpr reviews
    have entries := (deleteWhere_eq_self_iff db.matrix fun _ entry =>
      db.isEndpointOf assessmentId entry.endpointId).mpr matrix
    rw [clearReferences_reviews, clearReferences_steps, kept]
    refine ⟨update_eq_self fun row member => ?_, entries, update_eq_self fun row member => ?_⟩
    · have undoomed : ∀ key : Nat, (db.matrix.get? key).any
          (fun entry => db.isEndpointOf assessmentId entry.endpointId) = false := by
        intro key
        cases found : db.matrix.get? key with
        | none => rfl
        | some entry =>
          exact matrix (key, entry) ((db.matrix.get?_eq_some_iff key entry).mp found)
      have whole : row.2.matrixEntryId.filter (fun _ => true) = row.2.matrixEntryId := by
        cases row.2.matrixEntryId <;> rfl
      simp only [undoomed, Bool.not_false, whole]
    · have other := steps row member
      have all : (row.2.endpointId.filter fun key => !db.isEndpointOf assessmentId key) =
          row.2.endpointId := by
        unfold ApiDatabase.refersTo at other
        cases named : row.2.endpointId with
        | none => rfl
        | some key =>
          rw [named] at other
          exact Option.filter_some_pos (by simpa using other)
      rw [all]

end Clearing

/-! ## The import -/

section Import

variable {binds : ApiDefinition → Bool} {db : ApiDatabase} {assessmentId : Nat}
  {artifactType : ArtifactType} {filename : String} {definition : ApiDefinition}

/-- What the references are to before the endpoints are deleted. -/
def cleared (db : ApiDatabase) (assessmentId : Nat) : ApiDatabase :=
  if db.endpoints.rows.any fun row => row.2.assessmentId == assessmentId then
    db.clearReferences assessmentId
  else db

theorem refersTo_of_none
    (none : (db.endpoints.rows.any fun row => row.2.assessmentId == assessmentId) = false)
    (reference : Option Nat) : db.refersTo assessmentId reference = false := by
  cases reference with
  | none => rfl
  | some key => exact isEndpointOf_of_none none key

theorem isHeld_cleared :
    (cleared db assessmentId).isHeld assessmentId = true ↔ db.Held assessmentId := by
  unfold cleared
  split
  · exact isHeld_clearReferences
  · rename_i none
    rw [Bool.not_eq_true] at none
    exact isHeld_iff_of_unlinked (fun row _ => isEndpointOf_of_none none _)
      fun row _ => isEndpointOf_of_none none _

theorem endpoints_cleared : (cleared db assessmentId).endpoints = db.endpoints := by
  unfold cleared
  split <;> rfl

theorem artifacts_cleared : (cleared db assessmentId).artifacts = db.artifacts := by
  unfold cleared
  split <;> rfl

theorem findings_cleared : (cleared db assessmentId).findings = db.findings := by
  unfold cleared
  split <;> rfl

theorem suppressions_cleared :
    (cleared db assessmentId).suppressions = db.suppressions := by
  unfold cleared
  split <;> rfl

theorem replaceInventory_cleared (binds : ApiDefinition → Bool) (db : ApiDatabase)
    (assessmentId : Nat) (artifactType : ArtifactType) (filename : String)
    (definition : ApiDefinition) :
    replaceInventory binds db assessmentId artifactType filename definition =
      match (cleared db assessmentId).deleteEndpoints assessmentId with
      | none => .failed (cleared db assessmentId)
      | some deleted =>
        let replaced := { deleted with
          artifacts := (deleted.artifacts.deleteWhere fun _ artifact =>
              artifact.assessmentId == assessmentId).insert
            ⟨assessmentId, artifactType, filename, definition.redactedContent,
              definition.summary⟩ }
        if binds definition then
          .done { replaced.addEndpoints assessmentId definition.endpoints with
            assessments := replaced.assessments.modify assessmentId fun assessment =>
              ApiDatabase.describe assessment artifactType filename definition }
        else .broken := rfl

theorem isEndpointOf_cleared (key : Nat) :
    (cleared db assessmentId).isEndpointOf assessmentId key =
      db.isEndpointOf assessmentId key := by
  unfold ApiDatabase.isEndpointOf
  rw [endpoints_cleared]

/-- The tables once the inventory is the one of the definition. -/
structure Replaces (db : ApiDatabase) (assessmentId : Nat) (definition : ApiDefinition)
    (replaced : ApiDatabase) : Prop where
  endpoints : replaced.endpoints = definition.endpoints.foldl (fun table operation =>
    table.insert ⟨operation, assessmentId⟩)
      (db.endpoints.deleteWhere fun _ endpoint => endpoint.assessmentId == assessmentId)
  findings : replaced.findings = db.findings
  suppressions : replaced.suppressions = db.suppressions
  reviews : replaced.reviews = (cleared db assessmentId).reviews
  matrix : replaced.matrix = (cleared db assessmentId).matrix
  steps : replaced.steps = (cleared db assessmentId).steps.update fun _ step =>
    { step with
      endpointId := step.endpointId.filter fun key => !db.isEndpointOf assessmentId key }

theorem replaceInventory_cases (binds : ApiDefinition → Bool) (db : ApiDatabase)
    (assessmentId : Nat) (artifactType : ArtifactType) (filename : String)
    (definition : ApiDefinition) :
    db.Held assessmentId ∧
        replaceInventory binds db assessmentId artifactType filename definition =
          .failed (cleared db assessmentId) ∨
      ¬ db.Held assessmentId ∧ binds definition = false ∧
        replaceInventory binds db assessmentId artifactType filename definition = .broken ∨
      ¬ db.Held assessmentId ∧ binds definition = true ∧
        ∃ replaced, replaceInventory binds db assessmentId artifactType filename
            definition = .done replaced ∧
          Replaces db assessmentId definition replaced := by
  have held := @isHeld_cleared db assessmentId
  by_cases refused : db.Held assessmentId
  · refine .inl ⟨refused, ?_⟩
    rw [replaceInventory_cleared, ApiDatabase.deleteEndpoints, if_pos (held.mpr refused)]
  · have free : (cleared db assessmentId).isHeld assessmentId = false := by
      rw [Bool.eq_false_iff]
      exact fun yes => refused (held.mp yes)
    rw [replaceInventory_cleared, ApiDatabase.deleteEndpoints, free, if_neg Bool.false_ne_true]
    dsimp only
    cases bound : binds definition with
    | false =>
      refine .inr (.inl ⟨refused, rfl, ?_⟩)
      rw [if_neg Bool.false_ne_true]
    | true =>
      rw [if_pos rfl]
      refine .inr (.inr ⟨refused, rfl, _, rfl, ?_, findings_cleared, suppressions_cleared, rfl,
        rfl, ?_⟩)
      · rw [← @endpoints_cleared db assessmentId]
        rfl
      · have untouched : db.isEndpointOf assessmentId =
            (cleared db assessmentId).isEndpointOf assessmentId :=
          funext fun key => (isEndpointOf_cleared key).symm
        rw [untouched]
        rfl

/-- The database once the assessment is being processed. -/
def processing (db : ApiDatabase) (assessmentId : Nat) : ApiDatabase :=
  { db with
    assessments := db.assessments.modify assessmentId fun assessment =>
      { assessment with status := .processing, errorMessage := none } }

theorem importDefinition_eq {assessment : ApiAssessment}
    (found : db.assessments.get? assessmentId = some assessment) :
    importDefinition binds db assessmentId artifactType filename (.definition definition) =
      match replaceInventory binds (processing db assessmentId) assessmentId artifactType
          filename definition with
      | .done replaced =>
        ⟨replaced.notify (artifactType.title ++ " import completed")
          ("Imported " ++ toString definition.endpoints.length ++ " API endpoints for '" ++
            assessment.name ++ "'.") "success" assessmentId, none⟩
      | .failed cleared =>
        ⟨failImport cleared assessmentId artifactType importFailed, some ⟨500, importFailed⟩⟩
      | .broken => ⟨db, some ⟨500, "This Session's transaction has been rolled back"⟩⟩ := by
  simp only [importDefinition, found]
  rfl

theorem cleared_processing : cleared (processing db assessmentId) assessmentId =
    processing (cleared db assessmentId) assessmentId := by
  unfold cleared
  rw [apply_ite (processing · assessmentId)]
  rfl

/-- The inventory and what refers to it are the same. -/
def SameTables (one other : ApiDatabase) : Prop :=
  one.endpoints = other.endpoints ∧ one.artifacts = other.artifacts ∧
    one.reviews = other.reviews ∧ one.matrix = other.matrix ∧ one.steps = other.steps

variable (binds db assessmentId artifactType filename) in
theorem importDefinition_unparsed {parsed : Parsed}
    (other : db.assessments.get? assessmentId = none ∨
      ∀ definition, parsed ≠ .definition definition) :
    (importDefinition binds db assessmentId artifactType filename parsed).failure ≠ none ∧
      SameTables (importDefinition binds db assessmentId artifactType filename parsed).db db := by
  unfold importDefinition
  cases found : db.assessments.get? assessmentId with
  | none => exact ⟨Option.some_ne_none _, rfl, rfl, rfl, rfl, rfl⟩
  | some assessment =>
    cases parsed with
    | refused message => exact ⟨Option.some_ne_none _, rfl, rfl, rfl, rfl, rfl⟩
    | crashed => exact ⟨Option.some_ne_none _, rfl, rfl, rfl, rfl, rfl⟩
    | definition value =>
      rcases other with missing | unparsed
      · rw [found] at missing
        exact absurd missing (Option.some_ne_none _)
      · exact absurd rfl (unparsed value)

variable (binds db assessmentId artifactType filename definition) in
/-- A definition that meets a held endpoint is refused, after the references were cleared. -/
theorem importDefinition_held (present : (db.assessments.get? assessmentId).isSome = true)
    (held : db.Held assessmentId) :
    (importDefinition binds db assessmentId artifactType filename
        (.definition definition)).failure ≠ none ∧
      SameTables (importDefinition binds db assessmentId artifactType filename
        (.definition definition)).db (cleared db assessmentId) := by
  obtain ⟨assessment, found⟩ := Option.isSome_iff_exists.mp present
  rw [importDefinition_eq found]
  rcases replaceInventory_cases binds (processing db assessmentId) assessmentId artifactType
    filename definition with ⟨-, turn⟩ | ⟨free, -⟩ | ⟨free, -⟩
  · rw [turn, cleared_processing]
    exact ⟨Option.some_ne_none _, rfl, rfl, rfl, rfl, rfl⟩
  · exact absurd held free
  · exact absurd held free

variable (binds db assessmentId artifactType filename) in
theorem importDefinition_unbound (present : (db.assessments.get? assessmentId).isSome = true)
    (free : ¬ db.Held assessmentId) (unbound : binds definition = false) :
    importDefinition binds db assessmentId artifactType filename (.definition definition) =
      ⟨db, some ⟨500, "This Session's transaction has been rolled back"⟩⟩ := by
  obtain ⟨assessment, found⟩ := Option.isSome_iff_exists.mp present
  rw [importDefinition_eq found]
  rcases replaceInventory_cases binds (processing db assessmentId) assessmentId artifactType
    filename definition with ⟨held, -⟩ | ⟨-, -, turn⟩ | ⟨-, bound, -⟩
  · exact absurd held free
  · rw [turn]
  · rw [unbound] at bound
    exact absurd bound Bool.false_ne_true

variable (binds db assessmentId artifactType filename) in
theorem importDefinition_free (present : (db.assessments.get? assessmentId).isSome = true)
    (free : ¬ db.Held assessmentId) (bound : binds definition = true) :
    ∃ replaced : ApiDatabase,
      importDefinition binds db assessmentId artifactType filename (.definition definition) =
        ⟨replaced, none⟩ ∧ Replaces db assessmentId definition replaced := by
  obtain ⟨assessment, found⟩ := Option.isSome_iff_exists.mp present
  rw [importDefinition_eq found]
  rcases replaceInventory_cases binds (processing db assessmentId) assessmentId artifactType
    filename definition with ⟨held, -⟩ | ⟨-, unbound, -⟩ | ⟨-, -, replaced, turn, made⟩
  · exact absurd held free
  · rw [unbound] at bound
    exact absurd bound Bool.false_ne_true
  · rw [turn]
    obtain ⟨endpoints, findings, suppressions, reviews, matrix, steps⟩ := made
    rw [cleared_processing] at reviews matrix steps
    exact ⟨_, rfl, endpoints, findings, suppressions, reviews, matrix, steps⟩

/-! ### What a completed import leaves -/

theorem operationsOf_replaced {replaced : ApiDatabase}
    (made : Replaces db assessmentId definition replaced) :
    replaced.operationsOf assessmentId = definition.endpoints := by
  obtain ⟨keys, length, rows⟩ := rows_foldl_insert
    (fun operation : Operation => (⟨operation, assessmentId⟩ : ApiEndpoint)) definition.endpoints
    (db.endpoints.deleteWhere fun _ endpoint => endpoint.assessmentId == assessmentId)
  have others : ((db.endpoints.deleteWhere fun _ endpoint =>
      endpoint.assessmentId == assessmentId).rows.filter fun row =>
        row.2.assessmentId == assessmentId) = [] := by
    rw [List.filter_eq_nil_iff]
    intro row member
    have other := (List.mem_filter.mp member).2
    simpa using other
  have added : ((keys.zip (definition.endpoints.map fun operation =>
      (⟨operation, assessmentId⟩ : ApiEndpoint))).filter fun row =>
        row.2.assessmentId == assessmentId) =
      keys.zip (definition.endpoints.map fun operation => ⟨operation, assessmentId⟩) := by
    rw [List.filter_eq_self]
    rintro ⟨key, endpoint⟩ member
    obtain ⟨operation, -, rfl⟩ := List.mem_map.mp (List.of_mem_zip member).2
    exact beq_self_eq_true _
  have values : (keys.zip (definition.endpoints.map fun operation =>
      (⟨operation, assessmentId⟩ : ApiEndpoint))).map (fun row => row.2.toOperation) =
      definition.endpoints := by
    have seconds : (keys.zip (definition.endpoints.map fun operation =>
        (⟨operation, assessmentId⟩ : ApiEndpoint))).map Prod.snd =
          definition.endpoints.map fun operation => ⟨operation, assessmentId⟩ :=
      List.map_snd_zip (by simp [length])
    have twice := List.map_map (g := ApiEndpoint.toOperation) (f := Prod.snd)
      (l := keys.zip (definition.endpoints.map fun operation =>
        (⟨operation, assessmentId⟩ : ApiEndpoint)))
    rw [seconds, List.map_map] at twice
    exact twice.symm.trans (List.map_id _)
  rw [operationsOf, made.endpoints, rows, List.filter_append, others, added, List.nil_append,
    values]

theorem isSome_get?_replaced {replaced : ApiDatabase}
    (made : Replaces db assessmentId definition replaced) {key : Nat}
    (stored : (db.endpoints.get? key).isSome = true)
    (other : db.isEndpointOf assessmentId key = false) :
    (replaced.endpoints.get? key).isSome = true := by
  rw [made.endpoints]
  exact isSome_get?_foldl_insert (fun operation : Operation =>
    (⟨operation, assessmentId⟩ : ApiEndpoint)) definition.endpoints
    (exists_get?_deleteWhere stored other)

theorem references_cleared (refs : db.References) (assessmentId : Nat) :
    (∀ row ∈ (cleared db assessmentId).reviews.rows,
      (db.endpoints.get? row.2.endpointId).isSome = true ∧
        db.isEndpointOf assessmentId row.2.endpointId = false) ∧
      (∀ row ∈ (cleared db assessmentId).matrix.rows,
        (db.endpoints.get? row.2.endpointId).isSome = true ∧
          db.isEndpointOf assessmentId row.2.endpointId = false) ∧
      ∀ row ∈ (cleared db assessmentId).steps.rows, ∀ key, row.2.endpointId = some key →
        (db.endpoints.get? key).isSome = true ∧
          db.isEndpointOf assessmentId key = false := by
  unfold cleared
  split
  · refine ⟨fun row member => ?_, fun row member => ?_, fun row member key named => ?_⟩
    · obtain ⟨old, stored, same, other⟩ := reviews_clearReferences db assessmentId member
      rw [same]
      exact ⟨refs.reviews old stored, other⟩
    · obtain ⟨stored, other⟩ := matrix_clearReferences db assessmentId member
      exact ⟨refs.matrix row stored, other⟩
    · obtain ⟨old, stored, same, other⟩ := steps_clearReferences db assessmentId member named
      exact ⟨refs.steps old stored key same, other⟩
  · rename_i none
    rw [Bool.not_eq_true] at none
    exact ⟨fun row member => ⟨refs.reviews row member, isEndpointOf_of_none none _⟩,
      fun row member => ⟨refs.matrix row member, isEndpointOf_of_none none _⟩,
      fun row member key named => ⟨refs.steps row member key named, isEndpointOf_of_none none _⟩⟩

theorem references_replaced (refs : db.References) (free : ¬ db.Held assessmentId)
    {replaced : ApiDatabase} (made : Replaces db assessmentId definition replaced) :
    replaced.References := by
  obtain ⟨reviewed, entered, stepped⟩ := references_cleared refs assessmentId
  refine ⟨fun row member key named => ?_, fun row member => ?_, fun row member => ?_,
    fun row member key named => ?_, fun row member key named => ?_⟩
  · rw [made.findings] at member
    refine isSome_get?_replaced made (refs.findings row member key named) ?_
    rw [Bool.eq_false_iff]
    exact fun own => free (.inl ⟨row, member, by rw [named]; exact own⟩)
  · rw [made.reviews] at member
    exact isSome_get?_replaced made (reviewed row member).1 (reviewed row member).2
  · rw [made.matrix] at member
    exact isSome_get?_replaced made (entered row member).1 (entered row member).2
  · rw [made.steps] at member
    obtain ⟨old, stored, rfl⟩ := List.mem_map.mp member
    have kept := (Option.filter_eq_some_iff.mp named).1
    exact isSome_get?_replaced made (stepped old stored key kept).1
      (stepped old stored key kept).2
  · rw [made.suppressions] at member
    refine isSome_get?_replaced made (refs.suppressions row member key named) ?_
    rw [Bool.eq_false_iff]
    exact fun own => free (.inr ⟨row, member, by rw [named]; exact own⟩)

theorem held_unanalysed_iff :
    (db.unanalysed assessmentId).Held assessmentId ↔ db.HeldByOthers assessmentId := by
  refine or_congr ?_ .rfl
  constructor
  · rintro ⟨row, member, own⟩
    obtain ⟨stored, other⟩ := List.mem_filter.mp member
    exact ⟨row, stored, by simpa using other, own⟩
  · rintro ⟨row, stored, other, own⟩
    exact ⟨row, List.mem_filter.mpr ⟨stored, by simpa using other⟩, own⟩

variable (binds db assessmentId artifactType filename) in
theorem importDefinition_failure_eq_none_iff
    (present : (db.assessments.get? assessmentId).isSome = true) :
    (importDefinition binds db assessmentId artifactType filename
      (.definition definition)).failure = none ↔
        ¬ db.Held assessmentId ∧ binds definition = true := by
  constructor
  · intro done
    by_cases held : db.Held assessmentId
    · exact absurd done (importDefinition_held binds db assessmentId artifactType filename
        definition present held).1
    · refine ⟨held, ?_⟩
      by_contra unbound
      rw [Bool.not_eq_true] at unbound
      rw [importDefinition_unbound binds db assessmentId artifactType filename present held
        unbound] at done
      exact absurd done (Option.some_ne_none _)
  · rintro ⟨free, bound⟩
    obtain ⟨replaced, run, -⟩ := importDefinition_free binds db assessmentId artifactType
      filename present free bound
    rw [run]

end Import

/-! ## Atomicity -/

/-- **An import is atomic exactly until an analysis**: it replaces the inventory or fails and
leaves it, and the findings of the assessment do not make it fail, when no finding or suppression
holds an endpoint, or when nothing else refers to one and the import was to fail without the
findings too. -/
theorem importDefinition_atomic_iff (binds : ApiDefinition → Bool) (db : ApiDatabase)
    (refs : db.References) (assessmentId : Nat) (artifactType : ArtifactType)
    (filename : String) (parsed : Parsed) :
    ReplacesAtomically binds db assessmentId artifactType filename parsed ↔
      ((db.assessments.get? assessmentId).isSome = true →
        ∀ definition, parsed = .definition definition → db.Held assessmentId →
          db.Unlinked assessmentId ∧
            (binds definition = false ∨ db.HeldByOthers assessmentId)) := by
  constructor
  · rintro atomic present definition rfl held
    obtain ⟨failed, -, -, reviews, matrix, steps⟩ :=
      importDefinition_held binds db assessmentId artifactType filename
        definition present held
    obtain ⟨-, -, sameReviews, sameMatrix, sameSteps⟩ := atomic.kept failed
    have some : (db.endpoints.rows.any fun row => row.2.assessmentId == assessmentId) =
        true := by
      by_contra none
      rw [Bool.not_eq_true] at none
      rcases held with ⟨row, -, own⟩ | ⟨row, -, own⟩ <;>
      · rw [refersTo_of_none none] at own
        exact absurd own Bool.false_ne_true
    have clears : cleared db assessmentId = db.clearReferences assessmentId :=
      if_pos some
    rw [clears] at reviews matrix steps
    refine ⟨clearReferences_eq_iff.mp ⟨reviews.symm.trans sameReviews,
      matrix.symm.trans sameMatrix, steps.symm.trans sameSteps⟩, ?_⟩
    by_contra unexcused
    rw [not_or, Bool.not_eq_false] at unexcused
    have alone : (importDefinition binds (db.unanalysed assessmentId) assessmentId
        artifactType filename (.definition definition)).failure = none :=
      (importDefinition_failure_eq_none_iff binds (db.unanalysed assessmentId)
        assessmentId artifactType filename present).mpr
          ⟨fun others => unexcused.2 (held_unanalysed_iff.mp others), unexcused.1⟩
    exact failed (atomic.welcome alone)
  · intro condition
    by_cases readable : (db.assessments.get? assessmentId).isSome = true ∧
        ∃ definition, parsed = .definition definition
    · obtain ⟨present, definition, rfl⟩ := readable
      have excused := condition present definition rfl
      by_cases held : db.Held assessmentId
      · obtain ⟨failed, endpoints, artifacts, reviews, matrix, steps⟩ :=
          importDefinition_held binds db assessmentId artifactType filename
            definition present held
        obtain ⟨unlinked, reason⟩ := excused held
        have same : (cleared db assessmentId).reviews = db.reviews ∧
            (cleared db assessmentId).matrix = db.matrix ∧
            (cleared db assessmentId).steps = db.steps := by
          unfold cleared
          split
          · exact clearReferences_eq_iff.mpr unlinked
          · exact ⟨rfl, rfl, rfl⟩
        refine ⟨fun done => absurd done failed,
          fun _ => ⟨endpoints.trans endpoints_cleared, artifacts.trans artifacts_cleared,
            reviews.trans same.1, matrix.trans same.2.1, steps.trans same.2.2⟩, fun done => ?_⟩
        obtain ⟨free, bound⟩ := (importDefinition_failure_eq_none_iff binds
          (db.unanalysed assessmentId)
          assessmentId artifactType filename present).mp done
        rcases reason with unbound | others
        · rw [unbound] at bound
          exact absurd bound Bool.false_ne_true
        · exact absurd (held_unanalysed_iff.mpr others) free
      · cases bound : binds definition with
        | false =>
          have run := importDefinition_unbound binds db assessmentId artifactType filename
            present held bound
          refine ⟨fun done => ?_, fun _ => ?_, fun done => ?_⟩
          · rw [run] at done
            exact absurd done (Option.some_ne_none _)
          · rw [run]
            exact ⟨rfl, rfl, rfl, rfl, rfl⟩
          · have alone := ((importDefinition_failure_eq_none_iff binds (db.unanalysed
              assessmentId) assessmentId artifactType filename present).mp done).2
            rw [bound] at alone
            exact absurd alone Bool.false_ne_true
        | true =>
          obtain ⟨replaced, run, made⟩ := importDefinition_free binds db assessmentId
            artifactType filename present held bound
          refine ⟨fun _ => ⟨definition, rfl, ?_⟩, fun failed => ?_, fun _ => ?_⟩
          · rw [run]
            exact ⟨operationsOf_replaced made, references_replaced refs held made⟩
          · rw [run] at failed
            exact absurd rfl failed
          · rw [run]
    · have unread : db.assessments.get? assessmentId = none ∨
          ∀ definition, parsed ≠ .definition definition := by
        rw [not_and_or, Option.not_isSome_iff_eq_none, not_exists] at readable
        exact readable
      obtain ⟨failed, kept⟩ := importDefinition_unparsed binds db assessmentId
        artifactType filename unread
      have alone := (importDefinition_unparsed binds (db.unanalysed assessmentId) assessmentId
        artifactType filename unread).1
      exact ⟨fun done => absurd done failed, fun _ => kept, fun done => absurd done alone⟩

/-! ### An analysed assessment -/

section Analysed

/-- `GET /orders`. -/
def listOrders : Operation :=
  ⟨"/orders", "GET", none, none, none, true, [], [], [], [], [], none, false, .info, []⟩

/-- The endpoint of an assessment with a finding and a review. -/
def reviewedShop : ApiDatabase where
  assessments := Table.empty.insert
    ⟨"Shop", .manual, none, .completed, none, none, 1, 0, 0, 1, none⟩
  endpoints := Table.empty.insert ⟨listOrders, 1⟩
  artifacts := Table.empty
  jwtAnalyses := Table.empty
  findings := Table.empty.insert
    ⟨1, some 1, "Administrative endpoint", none, "medium", "high", "", "", "", "", "metadata", ""⟩
  coverage := Table.empty
  roles := Table.empty
  matrix := Table.empty
  reviews := Table.empty.insert
    ⟨1, 1, none, .objectLevel, "", "", "", "medium", "medium", true, .open_, none, []⟩
  flows := Table.empty
  steps := Table.empty
  risks := Table.empty
  suppressions := Table.empty
  notifications := []

/-- The definition that was imported before. -/
def shopDefinition : ApiDefinition := ⟨none, none, [listOrders], "\x7b\x7d", []⟩

theorem reviewedShop_references : reviewedShop.References :=
  ⟨by decide, by decide, by decide, by decide, by decide⟩

theorem reimport_loses_review :
    ¬ ∀ (binds : ApiDefinition → Bool) (db : ApiDatabase), db.References →
      ∀ (assessmentId : Nat) (artifactType : ArtifactType) (filename : String) (parsed : Parsed),
        ReplacesAtomically binds db assessmentId artifactType filename parsed := by
  intro always
  have atomic := always (fun _ => true) reviewedShop reviewedShop_references 1 .openapi "shop.json"
    (.definition shopDefinition)
  have kept := (atomic.kept (by decide)).2.2.1
  exact absurd (congrArg Table.rows kept) (by decide)

theorem importDefinition_atomic_unanalysed :
    (reviewedShop.unanalysed 1).References ∧
      ReplacesAtomically (fun _ => true) (reviewedShop.unanalysed 1) 1 .openapi "shop.json"
        (.definition shopDefinition) := by
  have refs : (reviewedShop.unanalysed 1).References :=
    ⟨by decide, by decide, by decide, by decide, by decide⟩
  have free : ¬ (reviewedShop.unanalysed 1).Held 1 := by
    rw [held_unanalysed_iff]
    rintro (⟨row, member, other, -⟩ | ⟨row, member, -⟩)
    · exact other (by simp_all [reviewedShop, Table.insert, Table.empty])
    · simp [reviewedShop, Table.empty] at member
  exact ⟨refs, (importDefinition_atomic_iff (fun _ => true) (reviewedShop.unanalysed 1) refs 1
    .openapi "shop.json" (.definition shopDefinition)).mpr
      fun _ _ _ held => absurd held free⟩

end Analysed

end ThreatScope.ApiSecurity
