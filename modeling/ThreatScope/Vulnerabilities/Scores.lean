import ThreatScope.Vulnerabilities.Expiry

/-!
# Scores are bounded, explained and monotone

The scores of `calculate_priority` lie between 0 and 100, and the inherent score is the
clamped sum of the points of the factors that are returned with it. Raising what is known of
a vulnerability, of an affected asset or of an occurrence, or adding assets and occurrences,
never lowers the inherent score (`priority_bounded_explained_monotone`).

The last holds as far as the two queries read. They stop after 500 rows, so an asset that is
added in front of 500 others hides the last of them, and the score may fall
(`inherent_falls_behind_limit`).
-/

set_option autoImplicit false

namespace ThreatScope.Vulnerabilities

open Library AccessControl

/-! ## What is returned -/

/-- What `calculate_priority` returns: the scores, and the operational one. -/
def priorityResult (work : Work) (key : Nat) (now : Instant) : Option (PriorityScores × Int) :=
  (vulnerability? work key).map fun record =>
    let scored := breached work record key now
    let scores := priorityScores record (affectedAssets work key) (activeOccurrences work key)
      now scored.2
    let status := ((vulnerability? scored.1 key).map VulnerabilityRecord.status).getD
      record.status
    (scores, status.operational scores.inherent)

/-- The assets of a vulnerability, without the limit. -/
def everyAffectedAsset (work : Work) (key : Nat) : List Asset :=
  (work.query Store.assets fun id _ =>
    work.stored.occurrences.rows.any fun occurrence =>
      occurrence.2.vulnerabilityId == key && occurrence.2.assetId == some id).map Prod.snd

/-- The active occurrences of a vulnerability, without the limit. -/
def everyActiveOccurrence (work : Work) (key : Nat) : List VulnerabilityOccurrence :=
  (work.query Store.occurrences fun _ occurrence =>
    occurrence.vulnerabilityId == key && occurrence.active).map Prod.snd

theorem affectedAssets_eq (work : Work) (key : Nat) :
    affectedAssets work key = (everyAffectedAsset work key).take 500 := List.map_take

theorem activeOccurrences_eq (work : Work) (key : Nat) :
    activeOccurrences work key = (everyActiveOccurrence work key).take 500 := List.map_take

/-- The acceptance that keeps a missed deadline from counting. -/
def Stands (work : Work) (key : Nat) (now : Instant) : Prop :=
  ∃ id acceptance, askedAcceptance work key = some (id, acceptance) ∧ now < acceptance.expiresAt

theorem isNone_accepted (work : Work) (key : Nat) (now : Instant) :
    (accepted work key now).2.isNone = true ↔ ¬Stands work key now := by
  unfold accepted Stands askedAcceptance
  cases asked : (latestApproved? work.stored key).bind fun row =>
      (work.live.acceptances.get? row.1).map fun acceptance => (row.1, acceptance) with
  | none => simp
  | some found =>
    obtain ⟨id, acceptance⟩ := found
    by_cases lapsed : acceptance.expiresAt ≤ now
    · simp [lapsed, not_lt.mpr lapsed]
    · simp [lapsed, not_le.mp lapsed]

theorem breached_iff (work : Work) (record : VulnerabilityRecord) (key : Nat) (now : Instant) :
    (breached work record key now).2 = true ↔
      record.pastDue now = true ∧ ¬Stands work key now := by
  unfold breached
  split
  case isTrue beyond =>
    rw [isNone_accepted]
    exact (and_iff_right beyond).symm
  case isFalse early =>
    exact iff_of_false Bool.false_ne_true fun both => early both.1

/-! ## Raising -/

/-- An asset that counts for at least as much. -/
structure Asset.Raised (asset raised : Asset) : Prop where
  criticality : asset.businessCriticality.points ≤ raised.businessCriticality.points
  production : asset.environment = .production → raised.environment = .production
  exposed : asset.internetExposed = true → raised.internetExposed = true
  sensitive : asset.containsSensitiveData = true → raised.containsSensitiveData = true

theorem Asset.Raised.refl (asset : Asset) : asset.Raised asset :=
  ⟨le_rfl, id, id, id⟩

/-- A vulnerability about which at least as much is known, with the same deadline. -/
structure VulnerabilityRecord.Raised (record raised : VulnerabilityRecord) : Prop where
  severity : record.severity.order ≤ raised.severity.order
  confidence : record.confidence ≤ raised.confidence
  exploitable : record.internetExploitable = true → raised.internetExploitable = true
  authentication : record.authenticationRequired = some false →
    raised.authenticationRequired = some false
  interaction : record.userInteractionRequired = some false →
    raised.userInteractionRequired = some false
  exploitation : record.knownExploitationObserved = true →
    raised.knownExploitationObserved = true
  recurrence : record.recurrenceCount ≤ raised.recurrenceCount
  seen : raised.firstSeenAt ≤ record.firstSeenAt
  due : raised.dueAt = record.dueAt

/-- A state in which a vulnerability has the assets and occurrences it had, each raised, and
perhaps others, and in which the same acceptance is found. -/
structure Raises (key : Nat) (work raised : Work) : Prop where
  record : ∀ record, vulnerability? work key = some record →
    ∃ other, vulnerability? raised key = some other ∧ record.Raised other
  assets : List.SublistForall₂ Asset.Raised (everyAffectedAsset work key)
    (everyAffectedAsset raised key)
  occurrences : List.SublistForall₂ (fun occurrence other =>
      occurrence.occurrenceCount ≤ other.occurrenceCount)
    (everyActiveOccurrence work key) (everyActiveOccurrence raised key)
  acceptance : askedAcceptance raised key = askedAcceptance work key

/-- The queries read all that counts: every affected asset, and every active occurrence unless
each of them was seen, which is enough points at 500. -/
def ReadsAll (work : Work) (key : Nat) : Prop :=
  (everyAffectedAsset work key).length ≤ 500 ∧
    ((everyActiveOccurrence work key).length ≤ 500 ∨
      ∀ occurrence ∈ everyActiveOccurrence work key, 0 < occurrence.occurrenceCount)

/-! ## The parts of a score -/

section Parts

theorem clamp_mem (value : Int) : 0 ≤ clamp value ∧ clamp value ≤ 100 := by
  unfold clamp
  omega

theorem clamp_mono {value other : Int} (below : value ≤ other) : clamp value ≤ clamp other := by
  unfold clamp
  omega

theorem Severity.points_mono {severity other : Severity} (below : severity.order ≤ other.order) :
    severity.points ≤ other.points := by
  revert below
  cases severity <;> cases other <;> decide

theorem confidencePoints_mono {confidence other : Nat} (below : confidence ≤ other) :
    confidencePoints confidence ≤ confidencePoints other := by
  unfold confidencePoints
  omega

theorem points_mono {condition other : Prop} [Decidable condition] [Decidable other]
    (count : Int) (positive : 0 ≤ count) (still : condition → other) :
    (if condition then count else 0) ≤ if other then count else 0 := by
  split
  · rename_i holds
    rw [if_pos (still holds)]
  · split
    · exact positive
    · exact le_rfl

variable {assets others : List Asset}

theorem any_mono (test : Asset → Bool)
    (kept : ∀ asset raised : Asset, asset.Raised raised → test asset = true → test raised = true)
    (below : List.SublistForall₂ Asset.Raised assets others)
    (some_hold : assets.any test = true) : others.any test = true := by
  induction below with
  | nil => cases some_hold
  | cons raised _ ih =>
    rw [List.any_cons, Bool.or_eq_true] at some_hold ⊢
    exact some_hold.imp (kept _ _ raised) ih
  | cons_right _ ih =>
    rw [List.any_cons, Bool.or_eq_true]
    exact .inr (ih some_hold)

theorem criticality_mono (below : List.SublistForall₂ Asset.Raised assets others) :
    (assets.map fun asset => asset.businessCriticality.points).foldl max 0 ≤
      (others.map fun asset => asset.businessCriticality.points).foldl max 0 := by
  simp only [List.foldl_map]
  suffices general : ∀ start other : Int, start ≤ other →
      assets.foldl (fun most asset => max most asset.businessCriticality.points) start ≤
        others.foldl (fun most asset => max most asset.businessCriticality.points) other from
    general 0 0 le_rfl
  induction below with
  | nil =>
    rename_i rest
    intro start other least
    refine le_trans least ?_
    induction rest generalizing other start with
    | nil => exact le_rfl
    | cons first rest ih => exact le_trans (le_max_left _ _) (ih _ _ le_rfl)
  | cons raised _ ih =>
    intro start other least
    exact ih _ _ (max_le_max least raised.criticality)
  | cons_right _ ih =>
    intro start other least
    exact ih _ _ (least.trans (le_max_left _ _))

theorem length_mono {α : Type} {relation : α → α → Prop} {items more : List α}
    (below : List.SublistForall₂ relation items more) : items.length ≤ more.length := by
  obtain ⟨between, paired, inside⟩ := List.sublistForall₂_iff.mp below
  rw [paired.length_eq]
  exact inside.length_le

end Parts

/-! ## The scores of what was read -/

/-- The points of the occurrence count. -/
def occurrencePoints (occurrences : List VulnerabilityOccurrence) : Int :=
  min 5 (max 0 (((occurrences.map VulnerabilityOccurrence.occurrenceCount).sum : Int) - 1))

section Scores

variable (record : VulnerabilityRecord) (assets : List Asset)
  (occurrences : List VulnerabilityOccurrence) (now : Instant) (breached : Bool)

/-- **Bounds.** -/
theorem priorityScores_bounded :
    let scores := priorityScores record assets occurrences now breached
    (0 ≤ scores.technical ∧ scores.technical ≤ 100) ∧
      (0 ≤ scores.business ∧ scores.business ≤ 100) ∧
      0 ≤ scores.inherent ∧ scores.inherent ≤ 100 :=
  ⟨clamp_mem _, clamp_mem _, clamp_mem _⟩

theorem sum_points (first second : RiskFactor) (factors : List (String × Int)) :
    ((first :: second :: (factors.filter fun factor => factor.2 ≠ 0).map fun factor =>
      (⟨factor.1, factor.2, .storedLocalContext⟩ : RiskFactor)).map RiskFactor.points).sum =
        first.points + second.points + (factors.map Prod.snd).sum := by
  rw [List.map_cons, List.map_cons, List.sum_cons, List.sum_cons, List.map_map, ← add_assoc]
  congr 1
  induction factors with
  | nil => rfl
  | cons factor rest ih =>
    rw [List.map_cons, List.sum_cons, ← ih, List.filter_cons]
    by_cases zero : factor.2 = 0
    · simp [zero]
    · simp [zero]

/-- **The inherent score is the clamped sum of the returned points.** -/
theorem inherent_eq_sum :
    (priorityScores record assets occurrences now breached).inherent =
      clamp (((priorityScores record assets occurrences now breached).factors.map
        RiskFactor.points).sum) := by
  have explained := sum_points
    ⟨"technical severity", record.severity.points, .severity record.severity⟩
    ⟨"confidence", confidencePoints record.confidence, .confidence record.confidence⟩
  exact congrArg clamp (explained _).symm

end Scores

section Monotone

variable {record raised : VulnerabilityRecord} {assets others : List Asset}
  {occurrences more : List VulnerabilityOccurrence} {now later : Instant}
  {breached missed : Bool}

theorem age_mono (seen : raised.firstSeenAt ≤ record.firstSeenAt) (after : now ≤ later) :
    min 8 (max 0 ((now - record.firstSeenAt) / days 1) / 30) ≤
      min 8 (max 0 ((later - raised.firstSeenAt) / days 1) / 30) := by
  have older : (now - record.firstSeenAt) / days 1 ≤ (later - raised.firstSeenAt) / days 1 :=
    Int.ediv_le_ediv (by decide) (sub_le_sub after seen)
  exact min_le_min_left 8 (Int.ediv_le_ediv (by decide) (max_le_max_left 0 older))

/-- **Raising never lowers the inherent score** of what was read. -/
theorem inherent_mono (known : record.Raised raised)
    (affected : List.SublistForall₂ Asset.Raised assets others)
    (counted : occurrencePoints occurrences ≤ occurrencePoints more) (after : now ≤ later)
    (overdue : breached = true → missed = true) :
    (priorityScores record assets occurrences now breached).inherent ≤
      (priorityScores raised others more later missed).inherent := by
  have base := Severity.points_mono known.severity
  have confidence := confidencePoints_mono known.confidence
  have criticality := criticality_mono affected
  have environment := points_mono 6 (by decide)
    (any_mono (fun asset => asset.environment == .production)
      (fun _ _ above holds => by simpa using above.production (by simpa using holds)) affected)
  have exposed : (record.internetExploitable || assets.any Asset.internetExposed) = true →
      (raised.internetExploitable || others.any Asset.internetExposed) = true := by
    rw [Bool.or_eq_true, Bool.or_eq_true]
    exact Or.imp known.exploitable (any_mono _ (fun _ _ above => above.exposed) affected)
  have internet := points_mono 8 (by decide) exposed
  have sensitive := points_mono 5 (by decide)
    (any_mono Asset.containsSensitiveData (fun _ _ above => above.sensitive) affected)
  have auth := points_mono 4 (by decide) known.authentication
  have interaction := points_mono 2 (by decide) known.interaction
  have age := age_mono known.seen after
  have recurrence : min 8 ((record.recurrenceCount : Int) * 2) ≤
      min 8 ((raised.recurrenceCount : Int) * 2) := by
    have := known.recurrence
    omega
  have assetCount : min 5 (max 0 ((assets.length : Int) - 1)) ≤
      min 5 (max 0 ((others.length : Int) - 1)) := by
    have := length_mono affected
    omega
  have exploitation := points_mono 8 (by decide) known.exploitation
  have breach := points_mono 8 (by decide) overdue
  unfold occurrencePoints at counted
  unfold priorityScores
  refine clamp_mono ?_
  simp only [List.map_cons, List.map_nil, List.sum_cons, List.sum_nil]
  linarith

end Monotone

/-! ## The scores of a state -/

section Reading

variable {α : Type} {relation : α → α → Prop} {items more : List α}

theorem below_refl (same : ∀ item, relation item item) :
    ∀ items, List.SublistForall₂ relation items items
  | [] => .nil
  | item :: rest => .cons (same item) (below_refl same rest)

theorem take_below (below : List.SublistForall₂ relation items more) (count : Nat) :
    List.SublistForall₂ relation (items.take count) more := by
  induction below generalizing count with
  | nil =>
    rw [List.take_nil]
    exact .nil
  | cons related _ ih =>
    cases count with
    | zero => exact .nil
    | succ count => exact .cons related (ih count)
  | cons_right _ ih => exact .cons_right (ih count)

variable {occurrences others : List VulnerabilityOccurrence}

theorem occurrencePoints_mono
    (below : List.SublistForall₂ (fun occurrence other : VulnerabilityOccurrence =>
      occurrence.occurrenceCount ≤ other.occurrenceCount) occurrences others) :
    occurrencePoints occurrences ≤ occurrencePoints others := by
  have counts : List.SublistForall₂ (· ≤ ·)
      (occurrences.map VulnerabilityOccurrence.occurrenceCount)
      (others.map VulnerabilityOccurrence.occurrenceCount) := by
    rw [List.sublistForall₂_map_left_iff]
    simp only [List.sublistForall₂_map_right_iff]
    exact below
  have sums := counts.sum_le_sum fun count _ => Nat.zero_le count
  unfold occurrencePoints
  omega

theorem occurrencePoints_take
    (read : occurrences.length ≤ 500 ∨ ∀ occurrence ∈ occurrences, 0 < occurrence.occurrenceCount) :
    occurrencePoints occurrences ≤ occurrencePoints (occurrences.take 500) := by
  by_cases few : occurrences.length ≤ 500
  · rw [List.take_of_length_le few]
  · have positive := read.resolve_left few
    have many : (occurrences.take 500).length ≤
        ((occurrences.take 500).map VulnerabilityOccurrence.occurrenceCount).sum := by
      have each : ∀ count ∈ (occurrences.take 500).map VulnerabilityOccurrence.occurrenceCount,
          1 ≤ count := by
        intro count inside
        obtain ⟨occurrence, taken, rfl⟩ := List.mem_map.mp inside
        exact positive occurrence (List.mem_of_mem_take taken)
      simpa using List.length_le_sum_of_one_le _ each
    rw [List.length_take, min_eq_left (by omega)] at many
    unfold occurrencePoints
    omega

end Reading

section States

variable {work raised : Work} {key : Nat} {now later : Instant} {scores : PriorityScores}
  {operational : Int}

theorem of_priorityResult (returned : priorityResult work key now = some (scores, operational)) :
    ∃ record status, vulnerability? work key = some record ∧
      scores = priorityScores record (affectedAssets work key) (activeOccurrences work key) now
        (breached work record key now).2 ∧
      operational = VulnerabilityStatus.operational status scores.inherent := by
  unfold priorityResult at returned
  obtain ⟨record, stored, same⟩ := Option.map_eq_some_iff.mp returned
  cases same
  exact ⟨record, _, stored, rfl, rfl⟩

theorem VulnerabilityStatus.operational_mem (status : VulnerabilityStatus) {inherent : Int}
    (bounded : 0 ≤ inherent ∧ inherent ≤ 100) :
    0 ≤ status.operational inherent ∧ status.operational inherent ≤ 100 := by
  unfold VulnerabilityStatus.operational
  split
  all_goals omega

theorem calculatePriority_eq_write
    (returned : priorityResult work key now = some (scores, operational)) :
    ∃ looked residual, Looked now work looked ∧ calculatePriority work key now =
      looked.write (Store.modifyVulnerability key
        (VulnerabilityRecord.score scores operational residual)) := by
  unfold priorityResult at returned
  obtain ⟨record, stored, same⟩ := Option.map_eq_some_iff.mp returned
  cases same
  have looked := (looked_breached now work key record).trans (looked_accepted now _ key)
  unfold calculatePriority
  simp only [stored]
  exact ⟨_, _, looked, rfl⟩

theorem stored_of_priorityResult
    (returned : priorityResult work key now = some (scores, operational)) :
    ∃ record, vulnerability? (calculatePriority work key now) key = some record ∧
      record.technicalScore = scores.technical ∧ record.businessRiskScore = scores.business ∧
      record.priorityScore = operational ∧ record.riskFactors = scores.factors := by
  obtain ⟨record, status, stored, -, -⟩ := of_priorityResult returned
  obtain ⟨looked, residual, seen, written⟩ := calculatePriority_eq_write returned
  obtain ⟨new, found, -⟩ := seen.live.exists_rescored stored
  refine ⟨new.score scores operational residual, ?_, rfl, rfl, rfl, rfl⟩
  unfold vulnerability?
  rw [written, UnitOfWork.live_write, Store.modifyVulnerability, Table.get?_modify_self, found]
  rfl

theorem Stands.earlier (same : askedAcceptance raised key = askedAcceptance work key)
    (after : now ≤ later) (stands : Stands raised key later) : Stands work key now := by
  obtain ⟨id, acceptance, asked, unexpired⟩ := stands
  exact ⟨id, acceptance, same ▸ asked, lt_of_le_of_lt after unexpired⟩

theorem VulnerabilityRecord.Raised.pastDue {record other : VulnerabilityRecord}
    (known : record.Raised other) (after : now ≤ later) (beyond : record.pastDue now = true) :
    other.pastDue later = true := by
  unfold VulnerabilityRecord.pastDue at beyond ⊢
  rw [known.due]
  obtain ⟨due, deadline, missed⟩ := (Option.any_eq_true _ _).mp beyond
  exact (Option.any_eq_true _ _).mpr
    ⟨due, deadline, decide_eq_true (lt_of_lt_of_le (of_decide_eq_true missed) after)⟩

/-- **Priority scoring is bounded, explained and monotone.** The scores lie between 0 and 100
and are stored, the inherent score is the clamped sum of the points of the factors, and in a
raised state, at the same time or later, the inherent score is no lower as long as the queries
read every row there. -/
theorem priority_bounded_explained_monotone
    (returned : priorityResult work key now = some (scores, operational)) :
    ((0 ≤ scores.technical ∧ scores.technical ≤ 100) ∧
      (0 ≤ scores.business ∧ scores.business ≤ 100) ∧
      (0 ≤ scores.inherent ∧ scores.inherent ≤ 100) ∧
      0 ≤ operational ∧ operational ≤ 100) ∧
    scores.inherent = clamp (scores.factors.map RiskFactor.points).sum ∧
    (∃ record, vulnerability? (calculatePriority work key now) key = some record ∧
      record.technicalScore = scores.technical ∧ record.businessRiskScore = scores.business ∧
      record.priorityScore = operational ∧ record.riskFactors = scores.factors) ∧
    ∀ raised later raisedScores raisedOperational, Raises key work raised → now ≤ later →
      ReadsAll raised key →
      priorityResult raised key later = some (raisedScores, raisedOperational) →
      scores.inherent ≤ raisedScores.inherent := by
  have written := stored_of_priorityResult returned
  obtain ⟨record, status, stored, rfl, rfl⟩ := of_priorityResult returned
  obtain ⟨technical, business, inherent⟩ := priorityScores_bounded record
    (affectedAssets work key) (activeOccurrences work key) now (breached work record key now).2
  refine ⟨⟨technical, business, inherent, status.operational_mem inherent⟩,
    inherent_eq_sum _ _ _ _ _, written, ?_⟩
  intro raised later raisedScores raisedOperational raises after reads alsoReturned
  obtain ⟨other, _, alsoStored, rfl, -⟩ := of_priorityResult alsoReturned
  obtain ⟨found, same, known⟩ := raises.record record stored
  obtain rfl := Option.some.inj (alsoStored.symm.trans same)
  refine inherent_mono known ?_ ?_ after ?_
  · rw [affectedAssets_eq, affectedAssets_eq, List.take_of_length_le reads.1]
    exact take_below raises.assets 500
  · rw [activeOccurrences_eq, activeOccurrences_eq]
    calc occurrencePoints ((everyActiveOccurrence work key).take 500)
        ≤ occurrencePoints (everyActiveOccurrence raised key) :=
          occurrencePoints_mono (take_below raises.occurrences 500)
      _ ≤ occurrencePoints ((everyActiveOccurrence raised key).take 500) :=
          occurrencePoints_take reads.2
  · intro beyond
    obtain ⟨missed, alone⟩ := (breached_iff _ _ _ _).mp beyond
    exact (breached_iff _ _ _ _).mpr
      ⟨known.pastDue after missed, fun stands => alone (stands.earlier raises.acceptance after)⟩

end States

/-! ## Two runs -/

/-- A vulnerability of medium severity without a deadline. -/
def plainRecord : VulnerabilityRecord where
  title := "Open redirect"
  description := ""
  normalizedKey := ""
  fingerprint := ""
  category := ""
  weaknessId := none
  vulnerabilityId := none
  sourceFamily := "scanner"
  severity := .medium
  confidence := 50
  status := .new
  technicalScore := 0
  businessRiskScore := 0
  priorityScore := 0
  riskFactors := []
  residualRisk := none
  internetExploitable := false
  authenticationRequired := none
  userInteractionRequired := none
  knownExploitationObserved := false
  recurring := false
  recurrenceCount := 0
  firstSeenAt := 0
  lastSeenAt := 0
  dueAt := none
  slaPolicyId := none
  resolvedAt := none
  resolvedByUserId := none
  reopenedAt := none
  reopenedReason := none
  currentOwnerUserId := none
  mergedIntoId := none

/-- An asset of the given criticality. -/
def plainAsset (criticality : Criticality) : Asset := ⟨"", criticality, .unknown, false, false⟩

/-- An occurrence of a vulnerability on an asset. -/
def plainOccurrence (vulnerability asset : Nat) : VulnerabilityOccurrence :=
  ⟨vulnerability, some asset, "scanner", "finding", asset, "", .medium, 50, 0, 0, 1, true, true,
    false, none⟩

/-- One vulnerability that is seen on one asset. -/
def single (severity : Severity) (criticality : Criticality) : Store :=
  { Store.empty with
    vulnerabilities := Table.empty.insert { plainRecord with severity := severity }
    assets := Table.empty.insert (plainAsset criticality)
    occurrences := Table.empty.insert (plainOccurrence 1 1) }

theorem raises_single :
    Raises 1 (.start (single .medium .low)) (.start (single .high .critical)) where
  record := by
    rintro record stored
    obtain rfl := Option.some.inj stored
    exact ⟨_, rfl, ⟨by decide, le_rfl, id, id, id, id, le_rfl, le_rfl, rfl⟩⟩
  assets := .cons ⟨by decide, id, id, id⟩ .nil
  occurrences := below_refl (fun occurrence => Nat.le_refl occurrence.occurrenceCount) _
  acceptance := rfl

/-- A medium finding on an asset of low criticality, and a high one on a critical asset. -/
theorem priority_of_single :
    ∃ scores operational raisedScores raisedOperational,
      priorityResult (.start (single .medium .low)) 1 0 = some (scores, operational) ∧
      priorityResult (.start (single .high .critical)) 1 0 =
        some (raisedScores, raisedOperational) ∧
      scores.inherent = clamp (scores.factors.map RiskFactor.points).sum ∧
      scores.inherent ≤ raisedScores.inherent := by
  have results := @priority_bounded_explained_monotone (.start (single .medium .low)) 1 0 _ _ rfl
  exact ⟨_, _, _, _, rfl, rfl, results.2.1,
    results.2.2.2 _ 0 _ _ raises_single le_rfl ⟨by decide, .inl (by decide)⟩ rfl⟩

/-- A table with a row under each key from 1 to 501. -/
def rows501 {α : Type} (read : Nat → α) : Table α where
  nextKey := 502
  rows := (List.range' 1 501).map fun key => (key, read key)
  keys_lt := by
    intro row inside
    obtain ⟨key, bound, rfl⟩ := List.mem_map.mp inside
    have := List.mem_range'_1.mp bound
    simp only
    omega
  keys_nodup := by
    rw [List.map_map]
    exact (List.map_id _).symm ▸ List.nodup_range'

theorem query_start {σ α : Type} (store : σ) (table : σ → Table α) (test : Nat → α → Bool) :
    (UnitOfWork.start store).query table test =
      (table store).rows.filter fun row => test row.1 row.2 := by
  unfold UnitOfWork.query
  rw [UnitOfWork.stored_start, UnitOfWork.live_start]
  have found : ∀ row ∈ (table store).rows.filter fun row => test row.1 row.2,
      ((table store).get? row.1).map (fun value => (row.1, value)) = some row := by
    intro row inside
    rw [(Table.get?_eq_some_iff _ _ _).mpr (List.mem_of_mem_filter inside)]
    rfl
  rw [List.filterMap_congr found, List.filterMap_some]

/-- Two vulnerabilities and 501 assets, of which the last is critical. Every asset has an
occurrence, the first one of the given vulnerability and the others of the first. -/
def crowded (first : Nat) : Store :=
  { Store.empty with
    vulnerabilities := (Table.empty.insert plainRecord).insert plainRecord
    assets := rows501 fun key => plainAsset (if key = 501 then .critical else .low)
    occurrences := rows501 fun key => plainOccurrence (if key = 1 then first else 1) key }

/-- The keys whose occurrence is of the first vulnerability. -/
def crowdedKeys (first : Nat) : List Nat :=
  (List.range' 1 501).filter fun key => key ≠ 1 ∨ first = 1

theorem everyAffectedAsset_crowded (first : Nat) :
    everyAffectedAsset (.start (crowded first)) 1 =
      (crowdedKeys first).map fun key =>
        plainAsset (if key = 501 then .critical else .low) := by
  have assets : (crowded first).assets.rows = (List.range' 1 501).map fun key =>
      (key, plainAsset (if key = 501 then .critical else .low)) := rfl
  have occurrences : (crowded first).occurrences.rows = (List.range' 1 501).map fun key =>
      (key, plainOccurrence (if key = 1 then first else 1) key) := rfl
  unfold everyAffectedAsset
  rw [query_start, assets, UnitOfWork.stored_start, occurrences, List.filter_map, List.map_map]
  refine congrArg _ (List.filter_congr fun key inside => ?_)
  rw [Bool.eq_iff_iff, Function.comp, List.any_map, List.any_eq_true, decide_eq_true_iff]
  constructor
  · rintro ⟨other, -, both⟩
    simp only [Function.comp, plainOccurrence, Bool.and_eq_true, beq_iff_eq,
      Option.some.injEq] at both
    obtain ⟨mine, rfl⟩ := both
    by_cases here : other = 1
    · rw [if_pos here] at mine
      exact .inr mine
    · exact .inl here
  · intro affected
    refine ⟨key, inside, ?_⟩
    simp only [Function.comp, plainOccurrence, Bool.and_eq_true, beq_iff_eq, and_true]
    by_cases here : key = 1
    · rw [if_pos here]
      exact affected.resolve_left (not_not.mpr here)
    · exact if_neg here

theorem everyActiveOccurrence_crowded (first : Nat) :
    everyActiveOccurrence (.start (crowded first)) 1 =
      (crowdedKeys first).map fun key =>
        plainOccurrence (if key = 1 then first else 1) key := by
  have occurrences : (crowded first).occurrences.rows = (List.range' 1 501).map fun key =>
      (key, plainOccurrence (if key = 1 then first else 1) key) := rfl
  unfold everyActiveOccurrence
  rw [query_start, occurrences, List.filter_map, List.map_map]
  refine congrArg _ (List.filter_congr fun key _ => ?_)
  rw [Bool.eq_iff_iff]
  by_cases here : key = 1
  · simp [plainOccurrence, here]
  · simp [plainOccurrence, here]

theorem raises_crowded : Raises 1 (.start (crowded 2)) (.start (crowded 1)) where
  record := by
    rintro record stored
    exact ⟨record, stored, ⟨le_rfl, le_rfl, id, id, id, id, le_rfl, le_rfl, rfl⟩⟩
  assets := by
    have more : everyAffectedAsset (.start (crowded 1)) 1 =
        plainAsset .low :: everyAffectedAsset (.start (crowded 2)) 1 := by
      rw [everyAffectedAsset_crowded, everyAffectedAsset_crowded]
      decide +kernel
    rw [more]
    exact .cons_right (below_refl Asset.Raised.refl _)
  occurrences := by
    have more : everyActiveOccurrence (.start (crowded 1)) 1 =
        plainOccurrence 1 1 :: everyActiveOccurrence (.start (crowded 2)) 1 := by
      rw [everyActiveOccurrence_crowded, everyActiveOccurrence_crowded]
      decide +kernel
    rw [more]
    exact .cons_right (below_refl (fun occurrence => Nat.le_refl occurrence.occurrenceCount) _)
  acceptance := rfl

theorem inherent_falls_behind_limit :
    ¬ ∀ (key : Nat) (work raised : Work) (now later : Instant)
      (scores raisedScores : PriorityScores) (operational raisedOperational : Int),
      Raises key work raised → now ≤ later →
      priorityResult work key now = some (scores, operational) →
      priorityResult raised key later = some (raisedScores, raisedOperational) →
      scores.inherent ≤ raisedScores.inherent := by
  intro never
  have kept := never 1 (.start (crowded 2)) (.start (crowded 1)) 0 0 _ _ _ _ raises_crowded
    le_rfl rfl rfl
  rw [affectedAssets_eq, affectedAssets_eq, activeOccurrences_eq, activeOccurrences_eq,
    everyAffectedAsset_crowded, everyAffectedAsset_crowded, everyActiveOccurrence_crowded,
    everyActiveOccurrence_crowded] at kept
  exact absurd kept (by decide +kernel)

/-!
## When a deadline is missed

Scoring adds its SLA factor once the due instant is over, and `sla_state` answers `overdue`
once the day of that instant is over. On the rest of the day the score counts a breach that
the state does not call one, and at no other time do the two differ (`breach_agrees_iff`). As
time passes, the states of a deadline only move forward.
-/

/-- The SLA factor is among the returned ones. -/
def PriorityScores.CountsBreach (scores : PriorityScores) : Prop :=
  ∃ factor ∈ scores.factors, factor.factor = "SLA breach"

/-- The states of a running deadline in their order. -/
def SlaState.rank : SlaState → Option Nat
  | .onTrack => some 0
  | .warning => some 1
  | .dueToday => some 2
  | .overdue => some 3
  | _ => none

/-- As time passes and nothing is changed, the state of the deadline does not move back. -/
def MovesForward (work : Work) (key : Nat) : Prop :=
  ∀ early late, early ≤ late → ∀ before after,
    (slaState work key early).2.bind SlaState.rank = some before →
    (slaState work key late).2.bind SlaState.rank = some after → before ≤ after

/-- The due instant is over, its day is not, and no acceptance stands. -/
def MissedToday (work : Work) (key : Nat) (now : Instant) : Prop :=
  ∃ record due, vulnerability? work key = some record ∧ record.dueAt = some due ∧ due < now ∧
    due / days 1 = now / days 1 ∧ ¬Stands work key now

theorem countsBreach_iff (record : VulnerabilityRecord) (assets : List Asset)
    (occurrences : List VulnerabilityOccurrence) (now : Instant) (breached : Bool) :
    (priorityScores record assets occurrences now breached).CountsBreach ↔ breached = true := by
  unfold PriorityScores.CountsBreach priorityScores
  simp only [List.mem_cons, List.mem_map, List.mem_filter, List.not_mem_nil, or_false,
    decide_eq_true_eq, exists_eq_or_imp]
  constructor
  · rintro (name | name | ⟨factor, ⟨contextual, ⟨inside, counts⟩, rfl⟩, name⟩)
    · exact absurd name (by decide)
    · exact absurd name (by decide)
    · rcases inside with rfl | rfl | rfl | rfl | rfl | rfl | rfl | rfl | rfl | rfl | rfl | rfl
      -- eleven factors have another name
      iterate 11
        · simp at name
      by_contra early
      exact counts (if_neg early)
  · rintro rfl
    refine .inr (.inr ⟨⟨"SLA breach", 8, .storedLocalContext⟩, ⟨("SLA breach", 8), ⟨?_, ?_⟩, rfl⟩,
      rfl⟩)
    · simp
    · decide

section Deadline

variable {work : Work} {key : Nat} {now : Instant} {record : VulnerabilityRecord}

theorem slaState_eq (stored : vulnerability? work key = some record)
    (unresolved : record.status ≠ .resolved) :
    (slaState work key now).2 =
      if (accepted work key now).2.isNone then
        some (deadlineState (accepted work key now).1.live record now)
      else some .pausedByApprovedException := by
  unfold slaState
  simp only [stored, if_neg unresolved]
  cases (accepted work key now) with
  | mk looked acceptance =>
    cases acceptance with
    | none => rfl
    | some acceptance => rfl

theorem deadlineState_eq_overdue_iff (store : Store) (record : VulnerabilityRecord)
    (now : Instant) :
    deadlineState store record now = .overdue ↔
      ∃ due, record.dueAt = some due ∧ due < now ∧ due / days 1 ≠ now / days 1 := by
  unfold deadlineState
  cases record.dueAt with
  | none => simp
  | some due =>
    simp only [Option.some.injEq, exists_eq_left']
    split
    case isTrue today => exact iff_of_false SlaState.noConfusion fun both => both.2 today
    case isFalse another =>
      split
      case isTrue beyond => exact iff_of_true rfl ⟨beyond, another⟩
      case isFalse early =>
        refine iff_of_false ?_ fun both => early both.1
        split
        · split
          all_goals exact SlaState.noConfusion
        · exact SlaState.noConfusion

/-- **Overdue**: the due instant is over and so is its day, and no acceptance stands. -/
theorem slaState_eq_overdue_iff (stored : vulnerability? work key = some record)
    (unresolved : record.status ≠ .resolved) :
    (slaState work key now).2 = some .overdue ↔
      ¬Stands work key now ∧
        ∃ due, record.dueAt = some due ∧ due < now ∧ due / days 1 ≠ now / days 1 := by
  rw [slaState_eq stored unresolved]
  split
  case isTrue missing =>
    rw [Option.some.injEq, deadlineState_eq_overdue_iff]
    exact (and_iff_right ((isNone_accepted _ _ _).mp missing)).symm
  case isFalse found =>
    refine iff_of_false (by simp) fun both => found ((isNone_accepted _ _ _).mpr both.1)

/-- As time passes, the state of a deadline moves forward only. -/
theorem rank_deadlineState_mono {store other : Store} {later : Instant}
    (policies : other.policies = store.policies) (after : now ≤ later) {before behind : Nat}
    (first : (deadlineState store record now).rank = some before)
    (second : (deadlineState other record later).rank = some behind) : before ≤ behind := by
  unfold deadlineState at first second
  rw [policies] at second
  cases deadline : record.dueAt with
  | none =>
    rw [deadline] at first
    cases first
  | some due =>
    rw [deadline] at first second
    have day_mono {early late : Instant} (order : early ≤ late) :
        early / days 1 ≤ late / days 1 :=
      Int.ediv_le_ediv (by decide) order
    have days_pass := day_mono after
    simp only at first second
    split at first
    case isTrue today =>
      -- due today: it is the same day, or the due instant is over
      cases first
      split at second
      case isTrue => exact (Option.some.inj second).le
      case isFalse another =>
        rw [if_pos (lt_of_not_ge fun early =>
          another (le_antisymm (today ▸ days_pass) (day_mono early)))] at second
        cases second
        decide
    case isFalse another =>
      split at first
      case isTrue beyond =>
        -- overdue: the day and the instant stay over
        cases first
        have past : due / days 1 < now / days 1 := lt_of_le_of_ne (day_mono beyond.le) another
        rw [if_neg (lt_of_lt_of_le past days_pass).ne,
          if_pos (lt_of_lt_of_le beyond after)] at second
        cases second
        exact le_rfl
      case isFalse early =>
        split at first
        · rename_i policy found
          split at first
          case isTrue warned =>
            -- a warning stays one until the day of the deadline
            cases first
            split at second
            case isTrue => exact (Option.some.inj second) ▸ by decide
            case isFalse =>
              split at second
              case isTrue => exact (Option.some.inj second) ▸ by decide
              case isFalse =>
                rw [found] at second
                simp only at second
                rw [if_pos (le_trans warned after)] at second
                exact (Option.some.inj second).le
          case isFalse =>
            cases first
            exact Nat.zero_le _
        · cases first
          exact Nat.zero_le _

/-- **As time passes the state of a deadline only moves forward.** -/
theorem moves_forward (stored : vulnerability? work key = some record)
    (unresolved : record.status ≠ .resolved) : MovesForward work key := by
  intro early late after before behind first second
  rw [slaState_eq stored unresolved] at first second
  split at first
  case isFalse => cases first
  case isTrue missing =>
    split at second
    case isFalse => cases second
    case isTrue =>
      refine rank_deadlineState_mono ?_ after first second
      exact (looked_accepted late work key).live.policies.trans
        (looked_accepted early work key).live.policies.symm

/-- **The SLA breach of the score is the overdue state, except on the day of the deadline.**
The two agree exactly when the due instant is not over on a day that is not, or an acceptance
stands. -/
theorem breach_agrees_iff {scores : PriorityScores} {operational : Int}
    (stored : vulnerability? work key = some record) (unresolved : record.status ≠ .resolved)
    (returned : priorityResult work key now = some (scores, operational)) :
    ((scores.CountsBreach ↔ (slaState work key now).2 = some .overdue) ∧ MovesForward work key) ↔
      ¬MissedToday work key now := by
  obtain ⟨scored, _, found, rfl, -⟩ := of_priorityResult returned
  obtain rfl := Option.some.inj (stored.symm.trans found)
  rw [and_iff_left (moves_forward stored unresolved), countsBreach_iff, breached_iff,
    slaState_eq_overdue_iff stored unresolved]
  unfold MissedToday VulnerabilityRecord.pastDue
  rw [Option.any_eq_true]
  simp only [decide_eq_true_eq]
  constructor
  · rintro agrees ⟨other, due, alsoStored, deadline, beyond, today, alone⟩
    obtain rfl := Option.some.inj (stored.symm.trans alsoStored)
    obtain ⟨-, later, sameDeadline, -, another⟩ := agrees.mp ⟨⟨due, deadline, beyond⟩, alone⟩
    obtain rfl := Option.some.inj (deadline.symm.trans sameDeadline)
    exact another today
  · intro elsewhen
    constructor
    · rintro ⟨⟨due, deadline, beyond⟩, alone⟩
      refine ⟨alone, due, deadline, beyond, fun today => ?_⟩
      exact elsewhen ⟨record, due, stored, deadline, beyond, today, alone⟩
    · rintro ⟨alone, due, deadline, beyond, -⟩
      exact ⟨⟨due, deadline, beyond⟩, alone⟩

end Deadline

/-! ## Two runs -/

/-- A vulnerability that is due at the given instant. -/
def dueStore (due : Instant) : Store :=
  { Store.empty with
    vulnerabilities := Table.empty.insert { plainRecord with dueAt := some due } }

theorem breach_agrees_next_day :
    ∃ scores operational, priorityResult (.start (dueStore 5)) 1 (days 1 + 9) =
        some (scores, operational) ∧
      ((scores.CountsBreach ↔ (slaState (.start (dueStore 5)) 1 (days 1 + 9)).2 = some .overdue) ∧
        MovesForward (.start (dueStore 5)) 1) := by
  refine ⟨_, _, rfl, (breach_agrees_iff rfl VulnerabilityStatus.noConfusion rfl).mpr ?_⟩
  rintro ⟨record, due, stored, deadline, -, today, -⟩
  obtain rfl := Option.some.inj stored
  obtain rfl := Option.some.inj deadline
  exact absurd today (by decide)

/-- Four microseconds after its deadline a vulnerability is due today, and its score counts a
breach. -/
theorem breach_before_overdue :
    ¬ ∀ (work : Work) (key : Nat) (now : Instant) (record : VulnerabilityRecord)
      (scores : PriorityScores) (operational : Int),
      vulnerability? work key = some record → record.status ≠ .resolved →
      priorityResult work key now = some (scores, operational) →
      ((scores.CountsBreach ↔ (slaState work key now).2 = some .overdue) ∧
        MovesForward work key) := by
  intro agrees
  have same := (agrees (.start (dueStore 5)) 1 9 _ _ _ rfl VulnerabilityStatus.noConfusion rfl).1
  have counted := same.mp ((countsBreach_iff _ _ _ _ _).mpr (by decide +kernel))
  exact absurd counted (by decide +kernel)

end ThreatScope.Vulnerabilities
