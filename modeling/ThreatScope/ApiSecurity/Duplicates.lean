import ThreatScope.ApiSecurity.Analysis
import ThreatScope.Library.Runs

/-!
# Findings of repeated analyses

An analysis adds the candidates whose fingerprint was not stored when it began, all of them: two
candidates with one fingerprint become two findings. The findings of an assessment stay free of
duplicates exactly in the runs in which no two candidates that are new agree in their endpoint,
title and evidence (`analyses_unique_iff`). Whatever they leave, a second analysis adds nothing
and the coverage counts the findings that are there.
-/

set_option autoImplicit false

namespace ThreatScope.ApiSecurity

open Library

/-! ## Sequences of analyses -/

/-- A call on the assessment. -/
inductive AnalysisEvent where
  | analyzeAssessment
  | createReport
deriving DecidableEq

/-- What a candidate says: its endpoint, title and evidence. -/
def ApiFinding.content (row : ApiFinding) : Option Nat × String × String :=
  (row.endpointId, row.title, row.evidence)

section Properties

variable (env : ApiRuntime) (assessmentId : Nat)

/-- A call, with a failed one leaving everything as it was. -/
def analysisStep (db : ApiDatabase) : AnalysisEvent → ApiDatabase
  | .analyzeAssessment =>
    match analyzeAssessment env db assessmentId with
    | .ok (_, after) => after
    | .error _ => db
  | .createReport =>
    match createReport env db assessmentId with
    | .ok after => after
    | .error _ => db

/-- No two findings of the assessment have the same fingerprint. -/
def UniqueFindings (db : ApiDatabase) : Prop :=
  ((db.findingsOf assessmentId).map ApiFinding.fingerprint).Nodup

instance (db : ApiDatabase) : Decidable (UniqueFindings assessmentId db) :=
  inferInstanceAs (Decidable (List.Nodup _))

/-- An analysis that succeeds adds nothing. -/
def NothingNew (db : ApiDatabase) : Prop :=
  ∀ reply after, analyzeAssessment env db assessmentId = .ok (reply, after) →
    reply.findingsCreated = 0

/-- The coverage counts the findings of each category. -/
def Counted (db : ApiDatabase) : Prop :=
  ∀ key row, db.coverage.get? key = some row → row.assessmentId = assessmentId →
    row.findingCount =
      (db.findingsOf assessmentId).countP (ApiFinding.isOf · row.categoryId)

/-- **What a call owes to the findings**: none is there twice, and after an analysis another one
adds nothing and the coverage counts what is there. -/
structure KeepsUnique (move : Transition ApiDatabase AnalysisEvent) : Prop where
  unique : UniqueFindings assessmentId move.after
  repeated : move.input = .analyzeAssessment →
    NothingNew env assessmentId move.after
  counted : move.input = .analyzeAssessment →
    (move.before.assessments.get? assessmentId).isSome = true →
      Counted assessmentId move.after

/-- The candidates whose fingerprint is not stored. -/
def newCandidates (db : ApiDatabase) (assessment : ApiAssessment) : List ApiFinding :=
  (candidateFindings env db assessmentId assessment).filter fun item =>
    !db.hasFinding assessmentId item.fingerprint

/-- **The call meets no coinciding candidates**: where it looks for candidates, no two of the new
ones agree in their endpoint, title and evidence. -/
def NewDistinct (db : ApiDatabase) (event : AnalysisEvent) : Prop :=
  ∀ assessment, db.assessments.get? assessmentId = some assessment →
    (event = .createReport → db.findingsOf assessmentId = []) →
      ((newCandidates env assessmentId db assessment).map ApiFinding.content).Nodup

/-- The hash does not take two candidates of the assessment for one. -/
def NoCollision (db : ApiDatabase) : Prop :=
  ∀ assessment, db.assessments.get? assessmentId = some assessment →
    ∀ first ∈ candidateFindings env db assessmentId assessment,
      ∀ second ∈ candidateFindings env db assessmentId assessment,
        first.fingerprint = second.fingerprint → first.content = second.content

end Properties

/-! ## Candidates -/

section Candidates

variable {env : ApiRuntime} {assessmentId : Nat}

/-- A row that `_finding` makes for an assessment. -/
def IsCandidate (env : ApiRuntime) (assessmentId : Nat) (row : ApiFinding) : Prop :=
  row.assessmentId = assessmentId ∧
    row.fingerprint =
      fingerprint env assessmentId row.endpointId row.title row.evidence

theorem isCandidate_finding (endpointId : Option Nat)
    (title kind owasp severity confidence evidence source : String) :
    IsCandidate env assessmentId (finding env assessmentId endpointId title kind owasp
      severity confidence evidence source) := ⟨rfl, rfl⟩

theorem isCandidate_of_ite {test : Prop} [Decidable test] {candidate row : ApiFinding}
    (made : IsCandidate env assessmentId candidate)
    (member : row ∈ if test then [candidate] else []) : IsCandidate env assessmentId row := by
  by_cases met : test
  · rw [if_pos met] at member
    rw [List.mem_singleton.mp member]
    exact made
  · rw [if_neg met] at member
    cases member

theorem isCandidate_endpoint {sourceType : SourceType} {key : Nat} {endpoint : ApiEndpoint}
    {row : ApiFinding}
    (member : row ∈ endpointCandidates env assessmentId sourceType key endpoint) :
    IsCandidate env assessmentId row := by
  simp only [endpointCandidates, List.mem_append] at member
  rcases member with (((here | here) | here) | here) | here <;>
    exact isCandidate_of_ite (isCandidate_finding ..) here

theorem isCandidate_inventory {endpoints : List (Nat × ApiEndpoint)} {row : ApiFinding}
    (member : row ∈ inventoryCandidates env assessmentId endpoints) :
    IsCandidate env assessmentId row := by
  simp only [inventoryCandidates] at member
  split at member
  · rw [List.mem_singleton.mp member]
    exact isCandidate_finding ..
  · exact isCandidate_of_ite (isCandidate_finding ..) member

theorem isCandidate_artifact {artifact : ApiImportArtifact} {row : ApiFinding}
    (member : row ∈ artifactCandidates env assessmentId artifact) :
    IsCandidate env assessmentId row := by
  simp only [artifactCandidates, List.mem_append] at member
  rcases member with here | here <;> split at here
  · cases here
  · rw [List.mem_singleton.mp here]
    exact isCandidate_finding ..
  · cases here
  · rw [List.mem_singleton.mp here]
    exact isCandidate_finding ..

theorem isCandidate_of_mem {db : ApiDatabase} {assessment : ApiAssessment} {row : ApiFinding}
    (member : row ∈ candidateFindings env db assessmentId assessment) :
    IsCandidate env assessmentId row := by
  simp only [candidateFindings, List.mem_append, List.mem_flatMap, List.mem_map] at member
  rcases member with (((⟨_, -, here⟩ | here) | ⟨_, -, here⟩) | ⟨_, -, rfl⟩) | ⟨analysis, -, here⟩
  · exact isCandidate_endpoint here
  · exact isCandidate_inventory here
  · exact isCandidate_artifact here
  · exact isCandidate_finding ..
  · obtain ⟨item, -, rfl⟩ := List.mem_map.mp here
    exact isCandidate_finding ..

theorem fingerprint_of_content {first second : ApiFinding}
    (one : IsCandidate env assessmentId first)
    (other : IsCandidate env assessmentId second) (same : first.content = second.content) :
    first.fingerprint = second.fingerprint := by
  obtain ⟨endpoints, rest⟩ := Prod.mk.inj same
  obtain ⟨titles, evidences⟩ := Prod.mk.inj rest
  rw [one.2, other.2, endpoints, titles, evidences]

theorem nodup_fingerprint_iff {db : ApiDatabase} {assessment : ApiAssessment}
    (found : db.assessments.get? assessmentId = some assessment)
    (apart : NoCollision env assessmentId db) {rows : List ApiFinding}
    (offered : ∀ row ∈ rows, row ∈ candidateFindings env db assessmentId assessment) :
    (rows.map ApiFinding.fingerprint).Nodup ↔ (rows.map ApiFinding.content).Nodup := by
  unfold List.Nodup
  rw [List.pairwise_map, List.pairwise_map]
  refine List.Pairwise.iff_of_mem ?_
  intro first second one other
  apply not_congr
  constructor
  · exact apart assessment found first (offered first one) second (offered second other)
  · exact fingerprint_of_content (isCandidate_of_mem (offered first one))
      (isCandidate_of_mem (offered second other))

end Candidates

/-! ## What an analysis adds -/

section Adding

variable {assessmentId : Nat}

/-- Rows are added one after the other. -/
def addFindings (rows : List ApiFinding) (db : ApiDatabase) : ApiDatabase :=
  { db with findings := rows.foldl Table.insert db.findings }

theorem addFindings_cons (row : ApiFinding) (rows : List ApiFinding) (db : ApiDatabase) :
    addFindings (row :: rows) db = addFindings rows (db.addFinding row) := rfl

theorem findingsOf_addFinding (db : ApiDatabase) {row : ApiFinding}
    (own : row.assessmentId = assessmentId) :
    (db.addFinding row).findingsOf assessmentId =
      db.findingsOf assessmentId ++ [row] := by
  simp [ApiDatabase.findingsOf, ApiDatabase.addFinding, Table.insert, own]

theorem findingsOf_addFindings {rows : List ApiFinding}
    (own : ∀ row ∈ rows, row.assessmentId = assessmentId) (db : ApiDatabase) :
    (addFindings rows db).findingsOf assessmentId =
      db.findingsOf assessmentId ++ rows := by
  induction rows generalizing db with
  | nil => exact (List.append_nil _).symm
  | cons row rest ih =>
    rw [addFindings_cons, ih fun other member => own other (List.mem_cons_of_mem _ member),
      findingsOf_addFinding db (own row List.mem_cons_self), List.append_assoc]
    rfl

/-- **The query sees what was stored when the analysis began**: all candidates with a new
fingerprint are added, also those that share it. -/
theorem foldl_offerFinding (items : List ApiFinding) (created : Nat)
    (work : UnitOfWork ApiDatabase) :
    items.foldl (offerFinding assessmentId) (created, work) =
      let fresh := items.filter fun item =>
        !work.stored.hasFinding assessmentId item.fingerprint
      (created + fresh.length, work.write (addFindings fresh)) := by
  induction items generalizing created work with
  | nil => rfl
  | cons item rest ih =>
    rw [List.foldl_cons]
    by_cases old : work.stored.hasFinding assessmentId item.fingerprint = true
    · rw [offerFinding, if_pos old, ih]
      simp [old]
    · rw [offerFinding, if_neg old, ih]
      have new : (!work.stored.hasFinding assessmentId item.fingerprint) = true := by
        simpa using old
      simp only [List.filter_cons, UnitOfWork.stored_write, new, if_true, List.length_cons]
      refine Prod.ext ?_ rfl
      simp only [Nat.add_assoc, Nat.add_comm]

end Adding

/-! ## A call -/

/-- What the candidates are derived from is the same. -/
structure SameInventory (before after : ApiDatabase) : Prop where
  assessments : after.assessments = before.assessments
  endpoints : after.endpoints = before.endpoints
  artifacts : after.artifacts = before.artifacts
  jwtAnalyses : after.jwtAnalyses = before.jwtAnalyses

section Calls

variable {env : ApiRuntime} {assessmentId : Nat} {db : ApiDatabase} {assessment : ApiAssessment}

theorem candidateFindings_congr {after : ApiDatabase} (same : SameInventory db after) :
    candidateFindings env after assessmentId assessment =
      candidateFindings env db assessmentId assessment := by
  simp only [candidateFindings, responseExposureReview, ApiDatabase.endpointsOf,
    ApiDatabase.artifactsOf, ApiDatabase.jwtAnalysesOf, same.endpoints, same.artifacts,
    same.jwtAnalyses]

theorem own_newCandidates :
    ∀ row ∈ newCandidates env assessmentId db assessment,
      row.assessmentId = assessmentId :=
  fun _ member => (isCandidate_of_mem (List.mem_filter.mp member).1).1

theorem upsertFindings_start :
    upsertFindings env (UnitOfWork.start db) assessmentId assessment =
      ((newCandidates env assessmentId db assessment).length,
        UnitOfWork.start
          (addFindings (newCandidates env assessmentId db assessment) db)) := by
  simp only [upsertFindings, foldl_offerFinding, UnitOfWork.live_start, UnitOfWork.stored_start,
    Nat.zero_add]
  rfl

theorem each_foldl_insert {α : Type} {holds : Nat → ApiOwaspCoverage → Prop}
    {make : α → ApiOwaspCoverage} {items : List α} {table : Table ApiOwaspCoverage}
    (each : table.Each holds) (new : ∀ item key, holds key (make item)) :
    (items.foldl (fun table item => table.insert (make item)) table).Each holds := by
  induction items generalizing table with
  | nil => exact each
  | cons item rest ih => exact ih (each.insert (new item _))

theorem each_refreshCoverage (findings : List ApiFinding) :
    (refreshCoverage env db assessmentId findings).coverage.Each fun _ row =>
      row.assessmentId = assessmentId →
        row.findingCount = findings.countP (ApiFinding.isOf · row.categoryId) := by
  refine each_foldl_insert ?_ fun category key _ => rfl
  intro key row stored own
  rw [Table.get?_deleteWhere] at stored
  obtain ⟨-, passes⟩ := Option.filter_eq_some_iff.mp stored
  simp [own] at passes

/-- What a call leaves that looks for candidates. -/
structure Analysed (env : ApiRuntime) (assessmentId : Nat) (assessment : ApiAssessment)
    (before after : ApiDatabase) : Prop where
  inventory : SameInventory before after
  findings : after.findingsOf assessmentId =
    before.findingsOf assessmentId ++ newCandidates env assessmentId before assessment
  counted : Counted assessmentId after

theorem analysed_refresh (notifications : List Notification) :
    Analysed env assessmentId assessment db
      { refreshCoverage env
          (addFindings (newCandidates env assessmentId db assessment) db)
          assessmentId
          ((addFindings (newCandidates env assessmentId db assessment)
            db).findingsOf assessmentId) with
        notifications := notifications } where
  inventory := ⟨rfl, rfl, rfl, rfl⟩
  findings := findingsOf_addFindings own_newCandidates db
  counted := each_refreshCoverage _

/-- **What an analysis does**: it adds the candidates with a new fingerprint and counts. -/
theorem analyzeAssessment_ok (found : db.assessments.get? assessmentId = some assessment) :
    ∃ reply after, analyzeAssessment env db assessmentId = .ok (reply, after) ∧
      reply.findingsCreated = (newCandidates env assessmentId db assessment).length ∧
      Analysed env assessmentId assessment db after := by
  unfold analyzeAssessment
  rw [found]
  dsimp only
  rw [upsertFindings_start]
  exact ⟨_, _, rfl, rfl, iteInduction (motive := Analysed env assessmentId assessment db)
    (fun _ => analysed_refresh _) (fun _ => analysed_refresh _)⟩

theorem createReport_ok (found : db.assessments.get? assessmentId = some assessment) :
    ∃ after, createReport env db assessmentId = .ok after ∧
      SameInventory db after ∧
      after.findingsOf assessmentId =
        if (db.findingsOf assessmentId).isEmpty then
          newCandidates env assessmentId db assessment
        else db.findingsOf assessmentId := by
  unfold createReport
  rw [found]
  dsimp only
  refine ⟨_, rfl, ?_⟩
  by_cases unfound : (db.findingsOf assessmentId).isEmpty = true
  · rw [if_pos unfound, if_pos unfound, upsertFindings_start]
    have done := @analysed_refresh env assessmentId db assessment
    refine ⟨(done _).inventory, (done _).findings.trans ?_⟩
    rw [List.isEmpty_iff.mp unfound, List.nil_append]
  · rw [if_neg unfound, if_neg unfound]
    exact ⟨⟨rfl, rfl, rfl, rfl⟩, rfl⟩

/-! ## Duplicates -/

/-- The findings stay unique exactly when the new candidates carry different fingerprints. -/
theorem nodup_append_newCandidates_iff (unique : UniqueFindings assessmentId db) :
    ((db.findingsOf assessmentId ++
        newCandidates env assessmentId db assessment).map
          ApiFinding.fingerprint).Nodup ↔
      ((newCandidates env assessmentId db assessment).map
        ApiFinding.fingerprint).Nodup := by
  rw [List.map_append, List.nodup_append]
  constructor
  · exact fun all => all.2.1
  · intro apart
    refine ⟨unique, apart, ?_⟩
    intro old stored new offered same
    obtain ⟨row, place, rfl⟩ := List.mem_map.mp stored
    obtain ⟨item, fresh, rfl⟩ := List.mem_map.mp offered
    have unseen := (List.mem_filter.mp fresh).2
    have seen : db.hasFinding assessmentId item.fingerprint = true :=
      List.any_eq_true.mpr ⟨row, place, beq_iff_eq.mpr same⟩
    simp [seen] at unseen

theorem nothingNew_of_analysed {after : ApiDatabase}
    (done : Analysed env assessmentId assessment db after)
    (found : db.assessments.get? assessmentId = some assessment) :
    NothingNew env assessmentId after := by
  intro reply later again
  have found' : after.assessments.get? assessmentId = some assessment := by
    rw [done.inventory.assessments]
    exact found
  obtain ⟨other, last, answered, created, -⟩ := @analyzeAssessment_ok env _ _ _ found'
  rw [answered] at again
  obtain ⟨rfl, rfl⟩ := Prod.mk.inj (Except.ok.inj again)
  rw [created, List.length_eq_zero_iff]
  apply List.filter_eq_nil_iff.mpr
  intro item offered new
  rw [candidateFindings_congr done.inventory] at offered
  have stored : item.fingerprint ∈ (after.findingsOf assessmentId).map ApiFinding.fingerprint := by
    rw [done.findings, List.map_append, List.mem_append]
    by_cases old : db.hasFinding assessmentId item.fingerprint = true
    · obtain ⟨row, place, same⟩ := List.any_eq_true.mp old
      exact .inl (List.mem_map.mpr ⟨row, place, beq_iff_eq.mp same⟩)
    · exact .inr (List.mem_map_of_mem (List.mem_filter.mpr ⟨offered, by simpa using old⟩))
  obtain ⟨row, place, same⟩ := List.mem_map.mp stored
  have seen : after.hasFinding assessmentId item.fingerprint = true :=
    List.any_eq_true.mpr ⟨row, place, beq_iff_eq.mpr same⟩
  simp [seen] at new

end Calls

/-! ## Runs -/

section Runs

variable {env : ApiRuntime} {assessmentId : Nat}

/-- An analysis leaves the rows that it reads. -/
theorem sameInventory_step (db : ApiDatabase) (event : AnalysisEvent) :
    SameInventory db (analysisStep env assessmentId db event) := by
  cases found : db.assessments.get? assessmentId with
  | none =>
    cases event <;>
      simp only [analysisStep, analyzeAssessment, createReport, found] <;>
      exact ⟨rfl, rfl, rfl, rfl⟩
  | some assessment =>
    cases event with
    | analyzeAssessment =>
      obtain ⟨reply, after, answered, -, done⟩ := @analyzeAssessment_ok env _ _ _ found
      simp only [analysisStep, answered]
      exact done.inventory
    | createReport =>
      obtain ⟨after, answered, same, -⟩ := @createReport_ok env _ _ _ found
      simp only [analysisStep, answered]
      exact same

/-- The hash keeps the candidates apart after an analysis too. -/
theorem noCollision_step {db : ApiDatabase}
    (apart : NoCollision env assessmentId db) (event : AnalysisEvent) :
    NoCollision env assessmentId (analysisStep env assessmentId db event) := by
  have same := @sameInventory_step env assessmentId db event
  intro assessment found
  rw [same.assessments] at found
  rw [candidateFindings_congr same]
  exact apart assessment found

/-- **A call keeps the findings unique exactly when it meets no coinciding candidates.** -/
theorem keepsUnique_iff {db : ApiDatabase} (unique : UniqueFindings assessmentId db)
    (apart : NoCollision env assessmentId db) (event : AnalysisEvent) :
    KeepsUnique env assessmentId
        ⟨db, event, analysisStep env assessmentId db event⟩ ↔
      NewDistinct env assessmentId db event := by
  cases found : db.assessments.get? assessmentId with
  | none =>
    have unchanged : analysisStep env assessmentId db event = db := by
      cases event <;> simp only [analysisStep, analyzeAssessment, createReport, found]
    refine iff_of_true ?_ ?_
    · rw [unchanged]
      refine ⟨unique, fun _ => ?_, fun _ there => ?_⟩
      · intro reply after answered
        simp [analyzeAssessment, found] at answered
      · simp [found] at there
    · intro assessment wrong
      rw [found] at wrong
      cases wrong
  | some assessment =>
    have offered : ∀ row ∈ newCandidates env assessmentId db assessment,
        row ∈ candidateFindings env db assessmentId assessment :=
      fun _ member => (List.mem_filter.mp member).1
    have distinct := nodup_fingerprint_iff found apart offered
    cases event with
    | analyzeAssessment =>
      obtain ⟨reply, after, answered, -, done⟩ := @analyzeAssessment_ok env _ _ _ found
      have reached : analysisStep env assessmentId db .analyzeAssessment = after := by
        simp only [analysisStep, answered]
      rw [reached]
      constructor
      · intro keeps other found' _
        rw [← Option.some.inj (found.symm.trans found')]
        have nodup := keeps.unique
        unfold UniqueFindings at nodup
        rw [done.findings, nodup_append_newCandidates_iff unique] at nodup
        exact distinct.mp nodup
      · intro apartNew
        refine ⟨?_, fun _ => nothingNew_of_analysed done found, fun _ _ => done.counted⟩
        unfold UniqueFindings
        rw [done.findings, nodup_append_newCandidates_iff unique]
        exact distinct.mpr (apartNew assessment found (nomatch ·))
    | createReport =>
      obtain ⟨after, answered, -, findings⟩ := @createReport_ok env _ _ _ found
      have reached : analysisStep env assessmentId db .createReport = after := by
        simp only [analysisStep, answered]
      rw [reached]
      by_cases unfound : (db.findingsOf assessmentId).isEmpty = true
      · rw [if_pos unfound] at findings
        constructor
        · intro keeps other found' _
          rw [← Option.some.inj (found.symm.trans found')]
          have nodup := keeps.unique
          unfold UniqueFindings at nodup
          rw [findings] at nodup
          exact distinct.mp nodup
        · intro apartNew
          refine ⟨?_, (nomatch ·), (nomatch ·)⟩
          unfold UniqueFindings
          rw [findings]
          exact distinct.mpr (apartNew assessment found fun _ => List.isEmpty_iff.mp unfound)
      · rw [if_neg unfound] at findings
        refine iff_of_true ⟨?_, (nomatch ·), (nomatch ·)⟩ ?_
        · unfold UniqueFindings
          rw [findings]
          exact unique
        · intro other _ empty
          exact absurd (List.isEmpty_iff.mpr (empty rfl)) unfound

/-- **The findings of an assessment stay unique in exactly the runs that meet no coinciding
candidates.** -/
theorem analyses_unique_iff (env : ApiRuntime) (assessmentId : Nat) (db : ApiDatabase)
    (unique : UniqueFindings assessmentId db)
    (apart : NoCollision env assessmentId db) (events : List AnalysisEvent) :
    (∀ move ∈ trace (analysisStep env assessmentId) db events,
        KeepsUnique env assessmentId move) ↔
      ∀ move ∈ trace (analysisStep env assessmentId) db events,
        NewDistinct env assessmentId move.before move.input :=
  @good_transitions_iff _ _ (analysisStep env assessmentId)
    (fun db => UniqueFindings assessmentId db ∧
      NoCollision env assessmentId db) _ _
    (fun _ event sound keeps => ⟨keeps.unique, noCollision_step sound.2 event⟩)
    (fun _ event sound => keepsUnique_iff sound.1 sound.2 event) db ⟨unique, apart⟩ events

end Runs

/-! ### A field of two responses -/

section Example

/-- A response that documents a token. -/
def tokenResponse : Json :=
  .obj [("content", .obj [("application/json", .obj [("schema",
    .obj [("properties", .obj [("token", .obj [("type", .str "string")])])])])])]

/-- A definition with one operation and the given responses. -/
def loginDocument (responses : Dict) : Json :=
  .obj [("paths", .obj [("/login", .obj [("post", .obj [("responses", .obj responses)])])])]

def loginText : String := "paths: /login: post (ratelimit)"

/-- A runtime that reads one text as a definition. -/
def documentRuntime (document : Json) : ApiRuntime where
  py := { foldTable := fun c => [c], parseInt := fun _ => none, repr := fun _ => "",
              floatText := fun _ => "0.0" }
  lower text := String.ofList (text.toList.map Char.toLower)
  upper text := String.ofList (text.toList.map Char.toUpper)
  loads text := if text = loginText then some document else none
  sha256 text := "sha256:" ++ text
  owaspCategories := [⟨"API2:2023", "Broken Authentication", "Not verified."⟩,
    ⟨"API3:2023", "Broken Object Property Level Authorization", "Not confirmed."⟩]
  sensitiveFields := ["password", "token"]
  remediationCatalog := []

/-- An assessment that was imported and not analysed. -/
def loginShop : ApiDatabase where
  assessments := Table.empty.insert
    ⟨"Shop", .imported .openapi, some "shop.json", .completed, none, none, 1, 0, 0, 1, none⟩
  endpoints := Table.empty.insert
    ⟨⟨"/login", "POST", some "login", none, none, true, [], [], [], [], [], none, false, .info,
      []⟩, 1⟩
  artifacts := Table.empty.insert ⟨1, .openapi, "shop.json", loginText, []⟩
  jwtAnalyses := Table.empty
  findings := Table.empty
  coverage := Table.empty
  roles := Table.empty
  matrix := Table.empty
  reviews := Table.empty
  flows := Table.empty
  steps := Table.empty
  risks := Table.empty
  suppressions := Table.empty
  notifications := []

theorem responses_reported_twice :
    ¬ ∀ (env : ApiRuntime) (assessmentId : Nat) (db : ApiDatabase),
      UniqueFindings assessmentId db → NoCollision env assessmentId db →
        ∀ events : List AnalysisEvent,
          ∀ move ∈ trace (analysisStep env assessmentId) db events,
            KeepsUnique env assessmentId move := by
  intro always
  have apart : NoCollision (documentRuntime (loginDocument
      [("200", tokenResponse), ("201", tokenResponse)])) 1 loginShop := by
    intro assessment found
    cases found
    decide +kernel
  have keeps := always _ 1 loginShop (by decide) apart [.analyzeAssessment] _
    List.mem_cons_self
  exact absurd keeps.unique (by decide +kernel)

theorem analyses_unique_one_response :
    (trace (analysisStep (documentRuntime (loginDocument [("200", tokenResponse)])) 1) loginShop
      [.analyzeAssessment]).Forall
        (KeepsUnique (documentRuntime (loginDocument [("200", tokenResponse)])) 1) := by
  refine List.forall_iff_forall_mem.mpr
    ((analyses_unique_iff _ 1 loginShop (by decide) ?_ _).mpr ?_)
  · intro assessment found
    cases found
    decide +kernel
  · intro move member
    rw [List.mem_singleton.mp member]
    intro assessment found _
    cases found
    decide +kernel

end Example

end ThreatScope.ApiSecurity
