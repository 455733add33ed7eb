import ThreatScope.Library.GraphSearch
import ThreatScope.Library.Totals
import ThreatScope.Vulnerabilities.Sightings

/-!
# What merging and splitting write

A merge hands the occurrences of its sources to the target. One that the target already has
from the same record is counted to that and deleted; the others change their vulnerability.
A split hands some occurrences of a vulnerability to a new one. Both read the occurrences as
the database has them, so what they do to one occurrence does not depend on what they did to
those before, and the counts only move from one row to another.
-/

set_option autoImplicit false

namespace ThreatScope.Vulnerabilities

open Library AccessControl

/-- A piece of evidence without what it belongs to. -/
def VulnerabilityEvidence.content (evidence : VulnerabilityEvidence) : VulnerabilityEvidence :=
  { evidence with
    vulnerabilityId := 0
    occurrenceId := none }

/-- A piece of evidence of another vulnerability. -/
def VulnerabilityEvidence.movedTo (key : Nat) (evidence : VulnerabilityEvidence) :
    VulnerabilityEvidence :=
  { evidence with vulnerabilityId := key }

/-- An occurrence that belongs to another vulnerability. -/
def VulnerabilityOccurrence.movedTo (key : Nat) (occurrence : VulnerabilityOccurrence) :
    VulnerabilityOccurrence :=
  { occurrence with vulnerabilityId := key }

/-- An occurrence that another one of the same record is counted to. -/
def VulnerabilityOccurrence.absorb (duplicate occurrence : VulnerabilityOccurrence) :
    VulnerabilityOccurrence :=
  { occurrence with
    occurrenceCount := occurrence.occurrenceCount + duplicate.occurrenceCount
    lastObservedAt := max occurrence.lastObservedAt duplicate.lastObservedAt }

/-- What an occurrence is of, and what it belongs to. -/
def VulnerabilityOccurrence.home (occurrence : VulnerabilityOccurrence) :
    (String × String × Nat × String) × Nat :=
  (occurrence.source, occurrence.vulnerabilityId)

/-- The sum of all counts. -/
def Store.sightings (store : Store) : Nat :=
  store.occurrences.total VulnerabilityOccurrence.occurrenceCount

/-- The vulnerability an occurrence belongs to, as the database has it. -/
def storedOwner? (work : Work) (occurrence : Nat) : Option Nat :=
  (work.stored.occurrences.get? occurrence).map VulnerabilityOccurrence.vulnerabilityId

/-! ## One occurrence -/

/-- A session before and after one occurrence was handed to a target. -/
structure HandedOver (target : Nat) (row : Nat × VulnerabilityOccurrence) (work later : Work) :
    Prop where
  stored : later.stored = work.stored
  vulnerabilities : later.live.vulnerabilities = work.live.vulnerabilities
  verifications : later.live.verifications = work.live.verifications
  evidence : Agree VulnerabilityEvidence.content work.live.evidence later.live.evidence
  sightings : later.live.sightings = work.live.sightings
  moved : ∀ new, later.live.occurrences.get? row.1 = some new → new = row.2.movedTo target
  homes : ∀ key, key ≠ row.1 →
    (later.live.occurrences.get? key).map VulnerabilityOccurrence.home =
      (work.live.occurrences.get? key).map VulnerabilityOccurrence.home
  apart : ∀ key, key ≠ row.1 → storedOwner? work key ≠ some target →
    later.live.occurrences.get? key = work.live.occurrences.get? key

/-- **An occurrence of a source goes to the target, or is counted there.** -/
theorem handedOver_mergeOccurrence {work : Work} {target : Nat}
    {row : Nat × VulnerabilityOccurrence} (live : work.live.occurrences.get? row.1 = some row.2)
    (source : storedOwner? work row.1 ≠ some target) :
    HandedOver target row work (mergeOccurrence work target row) := by
  unfold mergeOccurrence
  split
  · rename_i duplicate other found
    obtain ⟨⟨old, stored, passes⟩, alsoLive⟩ :=
      UnitOfWork.mem_query_iff.mp (List.mem_of_head? found)
    simp only [Bool.and_eq_true, beq_iff_eq] at passes
    have owner : storedOwner? work duplicate = some target :=
      (congrArg (Option.map _) stored).trans (congrArg some passes.1)
    have different : duplicate ≠ row.1 := fun same => source (same ▸ owner)
    have rows : ∀ key, ((work.live.occurrences.modify duplicate (.absorb row.2)).deleteWhere
        fun id _ => id == row.1).get? key =
          if key = row.1 then none
          else if key = duplicate then (work.live.occurrences.get? key).map (.absorb row.2)
          else work.live.occurrences.get? key := by
      intro key
      rw [Table.get?_delete, Table.get?_modify]
    refine ⟨rfl, rfl, rfl, fun key => ?_, ?_, fun new there => ?_, fun key apart => ?_,
      fun key apart elsewhere => ?_⟩
    · simp only [UnitOfWork.live_write, Store.deleteOccurrence, Store.modifyOccurrence,
        Table.get?_update, Option.map_map]
      congr 1
      funext evidence
      simp only [Function.comp]
      split
      · rfl
      · rfl
    · have counted : (work.live.occurrences.modify duplicate (.absorb row.2)).total
          VulnerabilityOccurrence.occurrenceCount + other.occurrenceCount =
            work.live.sightings + (other.occurrenceCount + row.2.occurrenceCount) :=
        Table.total_modify _ alsoLive (.absorb row.2)
      have deleted : ((work.live.occurrences.modify duplicate (.absorb row.2)).deleteWhere
          fun id _ => id == row.1).total VulnerabilityOccurrence.occurrenceCount +
            row.2.occurrenceCount = (work.live.occurrences.modify duplicate (.absorb row.2)).total
              VulnerabilityOccurrence.occurrenceCount :=
        Table.total_delete _ ((Table.get?_modify_of_ne _ _ different.symm).trans live)
      exact Nat.add_right_cancel (deleted.trans (by omega))
    · cases there.symm.trans ((rows row.1).trans (if_pos rfl))
    · refine (congrArg (Option.map _) ((rows key).trans (if_neg apart))).trans ?_
      split
      · rw [Option.map_map]
        rfl
      · rfl
    · refine ((rows key).trans (if_neg apart)).trans (if_neg fun same => elsewhere ?_)
      rw [same]
      exact owner
  · refine ⟨rfl, rfl, rfl, .refl _, ?_, fun new there => ?_, fun key apart => ?_,
      fun key apart _ => ?_⟩
    · exact Table.total_modify_of_eq _ _ _ fun _ => rfl
    · have here := Table.get?_modify_self work.live.occurrences row.1
        (VulnerabilityOccurrence.movedTo target)
      rw [live] at here
      exact Option.some.inj (there.symm.trans here)
    · exact congrArg (Option.map _) (Table.get?_modify_of_ne _ _ apart)
    · exact Table.get?_modify_of_ne _ _ apart

/-! ## The occurrences of a source -/

/-- A session before and after occurrences under some keys were handed to a target. -/
structure HandedAll (target : Nat) (keys : List Nat) (work later : Work) : Prop where
  stored : later.stored = work.stored
  vulnerabilities : later.live.vulnerabilities = work.live.vulnerabilities
  verifications : later.live.verifications = work.live.verifications
  evidence : Agree VulnerabilityEvidence.content work.live.evidence later.live.evidence
  sightings : later.live.sightings = work.live.sightings
  moved : ∀ key ∈ keys, ∀ new, later.live.occurrences.get? key = some new →
    ∃ old, work.live.occurrences.get? key = some old ∧ new.home = (old.source, target)
  homes : ∀ key, key ∉ keys →
    (later.live.occurrences.get? key).map VulnerabilityOccurrence.home =
      (work.live.occurrences.get? key).map VulnerabilityOccurrence.home

/-- **All of them, one after the other.** A row that is handed over later is still as it was
read. -/
theorem handedAll_foldl {target : Nat} {rows : List (Nat × VulnerabilityOccurrence)} {work : Work}
    (unique : (rows.map Prod.fst).Nodup)
    (live : ∀ row ∈ rows, work.live.occurrences.get? row.1 = some row.2 ∧
      storedOwner? work row.1 ≠ some target) :
    HandedAll target (rows.map Prod.fst) work
      (rows.foldl (fun work row => mergeOccurrence work target row) work) := by
  induction rows generalizing work with
  | nil => exact ⟨rfl, rfl, rfl, .refl _, rfl, fun _ member => (nomatch member), fun _ _ => rfl⟩
  | cons row rest ih =>
    obtain ⟨here, source⟩ := live row (List.mem_cons_self ..)
    obtain ⟨fresh, others⟩ := List.nodup_cons.mp unique
    have first := handedOver_mergeOccurrence here source
    have owners : ∀ key, storedOwner? (mergeOccurrence work target row) key =
        storedOwner? work key := by
      intro key
      unfold storedOwner?
      rw [first.stored]
    have later := @ih (mergeOccurrence work target row) others fun other member => by
      obtain ⟨alive, apart⟩ := live other (List.mem_cons_of_mem _ member)
      have different : other.1 ≠ row.1 := fun same =>
        fresh (same ▸ List.mem_map_of_mem member)
      exact ⟨(first.apart other.1 different apart).trans alive, by rwa [owners]⟩
    refine ⟨later.stored.trans first.stored, later.vulnerabilities.trans first.vulnerabilities,
      later.verifications.trans first.verifications, first.evidence.trans later.evidence,
      later.sightings.trans first.sightings, fun key member new there => ?_,
      fun key missing => ?_⟩
    · by_cases own : key ∈ rest.map Prod.fst
      · obtain ⟨old, before, same⟩ := later.moved key own new there
        obtain ⟨other, further, rfl⟩ := List.mem_map.mp own
        obtain ⟨alive, apart⟩ := live other (List.mem_cons_of_mem _ further)
        have different : other.1 ≠ row.1 := fun same =>
          fresh (same ▸ List.mem_map_of_mem further)
        exact ⟨old, (first.apart _ different apart).symm.trans before, same⟩
      · have isFirst : key = row.1 := (List.mem_cons.mp member).resolve_right own
        subst isFirst
        -- The first row was handed over, and keeps its home from then on.
        have home := later.homes row.1 own
        rw [List.foldl_cons] at there
        rw [there, Option.map_some] at home
        obtain ⟨middle, handed, same⟩ := Option.map_eq_some_iff.mp home.symm
        rw [first.moved middle handed] at same
        exact ⟨row.2, here, same.symm⟩
    · have apart : key ≠ row.1 := fun same => missing (same ▸ List.mem_cons_self ..)
      have further : key ∉ rest.map Prod.fst := fun place =>
        missing (List.mem_cons_of_mem _ place)
      exact (later.homes key further).trans (first.homes key apart)

/-! ## The sources of a merge -/

/-- A vulnerability that was merged into another. -/
def VulnerabilityRecord.mergeInto (target : Nat) (record : VulnerabilityRecord) :
    VulnerabilityRecord :=
  { record with
    mergedIntoId := some target
    status := .archived
    priorityScore := 0 }

/-- A session before and after sources were merged into a target. -/
structure MergedInto (target : Nat) (sources : List Nat) (work later : Work) : Prop where
  stored : later.stored = work.stored
  verifications : later.live.verifications = work.live.verifications
  evidence : Agree VulnerabilityEvidence.content work.live.evidence later.live.evidence
  sightings : later.live.sightings = work.live.sightings
  vulnerabilities : ∀ key, vulnerability? later key =
    if key ∈ sources then (vulnerability? work key).map (.mergeInto target)
    else vulnerability? work key
  homes : ∀ key new, later.live.occurrences.get? key = some new →
    ∃ old, work.live.occurrences.get? key = some old ∧ new.source = old.source ∧
      ((∃ source ∈ sources, storedOwner? work key = some source) →
        new.vulnerabilityId = target) ∧
      ((∀ source ∈ sources, storedOwner? work key ≠ some source) →
        new.vulnerabilityId = old.vulnerabilityId)

/-- The evidence follows its occurrences, with the same content. -/
theorem evidence_foldl (target : Nat) (rows : List (Nat × VulnerabilityEvidence)) (work : Work) :
    let later := rows.foldl (fun work row => work.write fun store => { store with
      evidence := store.evidence.modify row.1 (.movedTo target) }) work
    later.stored = work.stored ∧ later.live.vulnerabilities = work.live.vulnerabilities ∧
      later.live.verifications = work.live.verifications ∧
      later.live.occurrences = work.live.occurrences ∧
      Agree VulnerabilityEvidence.content work.live.evidence later.live.evidence := by
  induction rows generalizing work with
  | nil => exact ⟨rfl, rfl, rfl, rfl, .refl _⟩
  | cons row rest ih =>
    obtain ⟨stored, vulnerabilities, verifications, occurrences, evidence⟩ := ih
      (work.write fun store => { store with
        evidence := store.evidence.modify row.1 (.movedTo target) })
    have handed : Agree VulnerabilityEvidence.content work.live.evidence
        (work.live.evidence.modify row.1 (.movedTo target)) := .modify _ fun _ => rfl
    exact ⟨stored, vulnerabilities, verifications, occurrences, handed.trans evidence⟩

/-- **One source.** -/
theorem mergedInto_mergeSource (work : Work) {target : Nat} (actor : Nat) (note : String)
    {source : Nat × VulnerabilityRecord} (apart : source.1 ≠ target) :
    MergedInto target [source.1] work (mergeSource work actor target note source) := by
  have rows : ∀ row ∈ work.query Store.occurrences fun _ occurrence =>
      occurrence.vulnerabilityId == source.1,
      work.live.occurrences.get? row.1 = some row.2 ∧ storedOwner? work row.1 = some source.1 := by
    rintro ⟨key, value⟩ member
    obtain ⟨⟨old, stored, passes⟩, live⟩ := UnitOfWork.mem_query_iff.mp member
    exact ⟨live, (congrArg (Option.map _) stored).trans (congrArg some (beq_iff_eq.mp passes))⟩
  have handed : HandedAll target _ work _ :=
    handedAll_foldl (work.nodup_query Store.occurrences _) fun row member => by
      obtain ⟨live, owner⟩ := rows row member
      exact ⟨live, by simpa [owner] using apart⟩
  have complete : ∀ key value, work.live.occurrences.get? key = some value →
      storedOwner? work key = some source.1 →
      key ∈ (work.query Store.occurrences fun _ occurrence =>
        occurrence.vulnerabilityId == source.1).map Prod.fst := by
    intro key value live owner
    obtain ⟨old, stored, same⟩ := Option.map_eq_some_iff.mp owner
    exact List.mem_map.mpr ⟨(key, value),
      UnitOfWork.mem_query_iff.mpr ⟨⟨old, stored, beq_iff_eq.mpr same⟩, live⟩, rfl⟩
  unfold mergeSource
  extract_lets occurrences evidence
  obtain ⟨stored, vulnerabilities, verifications, sameOccurrences, content⟩ :
      evidence.stored = occurrences.stored ∧
        evidence.live.vulnerabilities = occurrences.live.vulnerabilities ∧
        evidence.live.verifications = occurrences.live.verifications ∧
        evidence.live.occurrences = occurrences.live.occurrences ∧
        Agree VulnerabilityEvidence.content occurrences.live.evidence evidence.live.evidence :=
    evidence_foldl target _ occurrences
  have handed : HandedAll target _ work occurrences := handed
  clear_value evidence occurrences
  refine ⟨stored.trans handed.stored, verifications.trans handed.verifications,
    handed.evidence.trans content, ?_, fun key => ?_, fun key new there => ?_⟩
  · exact (congrArg (fun table : Table VulnerabilityOccurrence =>
      table.total VulnerabilityOccurrence.occurrenceCount) sameOccurrences).trans handed.sightings
  · have same : evidence.live.vulnerabilities = work.live.vulnerabilities :=
      vulnerabilities.trans handed.vulnerabilities
    refine (Table.get?_modify evidence.live.vulnerabilities source.1 key _).trans ?_
    rw [same]
    simp only [List.mem_singleton]
    rfl
  · have before : occurrences.live.occurrences.get? key = some new :=
      (congrArg (fun table : Table VulnerabilityOccurrence => table.get? key)
        sameOccurrences).symm.trans there
    by_cases member : key ∈ (work.query Store.occurrences fun _ occurrence =>
        occurrence.vulnerabilityId == source.1).map Prod.fst
    · obtain ⟨old, live, home⟩ := handed.moved key member new before
      obtain ⟨row, further, rfl⟩ := List.mem_map.mp member
      refine ⟨old, live, congrArg Prod.fst home, fun _ => congrArg Prod.snd home,
        fun elsewhere => ?_⟩
      exact absurd (rows row further).2 (elsewhere source.1 (List.mem_singleton_self _))
    · have home := handed.homes key member
      rw [before, Option.map_some] at home
      obtain ⟨old, live, same⟩ := Option.map_eq_some_iff.mp home.symm
      refine ⟨old, live, (congrArg Prod.fst same).symm, ?_, fun _ => (congrArg Prod.snd same).symm⟩
      rintro ⟨other, isSource, owner⟩
      rw [List.mem_singleton.mp isSource] at owner
      exact absurd (complete key old live owner) member

/-- **All sources, one after the other.** -/
theorem mergedInto_foldl {target : Nat} (actor : Nat) (note : String)
    {sources : List (Nat × VulnerabilityRecord)} {work : Work}
    (unique : (sources.map Prod.fst).Nodup) (apart : ∀ source ∈ sources, source.1 ≠ target) :
    MergedInto target (sources.map Prod.fst) work
      (sources.foldl (fun work source => mergeSource work actor target note source) work) := by
  induction sources generalizing work with
  | nil =>
    refine ⟨rfl, rfl, .refl _, rfl, fun _ => rfl, fun key new there => ?_⟩
    exact ⟨new, there, rfl, fun ⟨_, member, _⟩ => (nomatch member), fun _ => rfl⟩
  | cons source rest ih =>
    obtain ⟨fresh, others⟩ := List.nodup_cons.mp unique
    have first := mergedInto_mergeSource work actor note (apart source (List.mem_cons_self ..))
    have later := @ih (mergeSource work actor target note source) others
      fun other member => apart other (List.mem_cons_of_mem _ member)
    have owners : ∀ key, storedOwner? (mergeSource work actor target note source) key =
        storedOwner? work key := by
      intro key
      unfold storedOwner?
      rw [first.stored]
    rw [List.foldl_cons, List.map_cons]
    refine ⟨later.stored.trans first.stored, later.verifications.trans first.verifications,
      first.evidence.trans later.evidence, later.sightings.trans first.sightings,
      fun key => ?_, fun key new there => ?_⟩
    · rw [later.vulnerabilities, first.vulnerabilities]
      by_cases here : key = source.1
      · subst here
        simp [fresh]
      · have same : key ∈ source.1 :: rest.map Prod.fst ↔ key ∈ rest.map Prod.fst := by
          simp [here]
        simp only [List.mem_singleton, if_neg here, same]
    · obtain ⟨middle, between, sameSource, moved, kept⟩ := later.homes key new there
      obtain ⟨old, before, firstSource, firstMoved, firstKept⟩ := first.homes key middle between
      simp only [owners] at moved kept
      simp only [List.mem_singleton, exists_eq_left, forall_eq] at firstMoved firstKept
      refine ⟨old, before, sameSource.trans firstSource, ?_, fun elsewhere => ?_⟩
      · rintro ⟨other, member, owner⟩
        rcases List.mem_cons.mp member with rfl | further
        · refine (kept fun next place same => ?_).trans (firstMoved owner)
          obtain rfl := Option.some.inj (owner.symm.trans same)
          exact fresh place
        · exact moved ⟨other, further, owner⟩
      · exact (kept fun next place => elsewhere next (List.mem_cons_of_mem _ place)).trans
          (firstKept (elsewhere source.1 (List.mem_cons_self ..)))

/-! ## A merge -/

/-- A store before and after a merge. -/
structure Merged (now : Instant) (target : Nat) (sources : List Nat) (store written : Store) :
    Prop where
  apart : target ∉ sources
  verifications : written.verifications = store.verifications
  evidence : Agree VulnerabilityEvidence.content store.evidence written.evidence
  sightings : written.sightings = store.sightings
  merged : ∀ key ∈ sources, written.vulnerabilities.get? key =
    (store.vulnerabilities.get? key).map (.mergeInto target)
  others : ∀ key ∉ sources, key ≠ target →
    written.vulnerabilities.get? key = store.vulnerabilities.get? key
  widened : ∃ old new first last, store.vulnerabilities.get? target = some old ∧
    written.vulnerabilities.get? target = some new ∧
    Rescored now { old with firstSeenAt := first, lastSeenAt := last } new
  homes : ∀ key new, written.occurrences.get? key = some new →
    ∃ old, store.occurrences.get? key = some old ∧ new.source = old.source ∧
      new.vulnerabilityId = if old.vulnerabilityId ∈ sources then target else old.vulnerabilityId

/-- What the loops of a merge write is the merge. -/
theorem merged_of_mergedInto {store : Store} {now : Instant} {target : Nat} {sources : List Nat}
    {work : Work} {record : VulnerabilityRecord}
    {change : VulnerabilityRecord → VulnerabilityRecord}
    (merged : MergedInto target sources (.start store) work) (apart : target ∉ sources)
    (stored : store.vulnerabilities.get? target = some record)
    (widens : ∃ first last,
      change record = { record with firstSeenAt := first, lastSeenAt := last }) :
    Merged now target sources store
      (calculatePriority
        (work.write (Store.modifyVulnerability target change)) target now).live := by
  have looked := looked_calculatePriority now (work.write (Store.modifyVulnerability target change))
    target
  have only := onlyAt_calculatePriority (work.write (Store.modifyVulnerability target change))
    target now
  have elsewhere : ∀ key, key ≠ target →
      (calculatePriority (work.write (Store.modifyVulnerability target change)) target
        now).live.vulnerabilities.get? key = vulnerability? work key :=
    fun key here => (only.rows key here).trans (Table.get?_modify_of_ne _ _ here)
  refine ⟨apart, ?_, ?_, ?_, fun key member => ?_, fun key outside here => ?_, ?_, ?_⟩
  · exact looked.live.verifications.trans merged.verifications
  · rw [looked.live.evidence]
    exact merged.evidence
  · unfold Store.sightings
    rw [looked.live.occurrences]
    exact merged.sightings
  · have here : key ≠ target := fun same => apart (same ▸ member)
    rw [elsewhere key here, merged.vulnerabilities, if_pos member]
    rfl
  · rw [elsewhere key here, merged.vulnerabilities, if_neg outside]
    rfl
  · obtain ⟨first, last, same⟩ := widens
    have there : work.live.vulnerabilities.get? target = some record := by
      have row := merged.vulnerabilities target
      rw [if_neg apart] at row
      exact row.trans stored
    have widened : (work.write
        (Store.modifyVulnerability target change)).live.vulnerabilities.get? target =
          some { record with firstSeenAt := first, lastSeenAt := last } := by
      rw [← same]
      exact (Table.get?_modify_self ..).trans (congrArg (Option.map _) there)
    obtain ⟨new, found, scored⟩ := looked.live.exists_rescored widened
    exact ⟨record, new, first, last, stored, found, scored⟩
  · intro key new there
    rw [looked.live.occurrences] at there
    obtain ⟨old, before, sameSource, moved, kept⟩ := merged.homes key new there
    have owner : storedOwner? (.start store) key = some old.vulnerabilityId :=
      congrArg (Option.map _) before
    refine ⟨old, before, sameSource, ?_⟩
    split
    · rename_i member
      exact moved ⟨_, member, owner⟩
    · rename_i outside
      refine kept fun source member same => outside ?_
      rw [Option.some.inj (owner.symm.trans same)]
      exact member

/-- **A merge is refused, or merges its sources into the target.** -/
theorem merged_of_merge (store : Store) (actor : Actor) (now : Instant) (target : Nat)
    (ids : List Nat) (note : String) :
    (mergeVulnerabilities store actor now target ids note).store = store ∨
      ∃ sources, Merged now target sources store
        (mergeVulnerabilities store actor now target ids note).store := by
  unfold mergeVulnerabilities withVulnerability
  simp only
  split
  · exact .inl rfl
  rename_i record stored
  split
  · exact .inl rfl
  split
  · exact .inl rfl
  have rows : ∀ source ∈ (UnitOfWork.start store).query Store.vulnerabilities
      (fun key _ => ((ids.filter (· ≠ target)).dedup).contains key), source.1 ≠ target := by
    rintro ⟨key, value⟩ member same
    obtain ⟨⟨_, -, passes⟩, -⟩ := UnitOfWork.mem_query_iff.mp member
    simp only [List.contains_eq_mem, List.mem_dedup, List.mem_filter, decide_eq_true_eq] at passes
    exact passes.2 same
  have unique := (UnitOfWork.start store).nodup_query Store.vulnerabilities
    fun key _ => ((ids.filter (· ≠ target)).dedup).contains key
  revert rows unique
  generalize (UnitOfWork.start store).query Store.vulnerabilities
    (fun key _ => ((ids.filter (· ≠ target)).dedup).contains key) = sources
  intro rows unique
  have apart : target ∉ sources.map Prod.fst := by
    intro member
    obtain ⟨row, place, same⟩ := List.mem_map.mp member
    exact rows row place same
  exact .inr ⟨_, merged_of_mergedInto (mergedInto_foldl actor.id note unique rows) apart stored
    ⟨_, _, rfl⟩⟩

/-! ## A split -/

/-- A session before and after occurrences were moved to a vulnerability. -/
structure MovedAll (target : Nat) (keys : List Nat) (work later : Work) : Prop where
  stored : later.stored = work.stored
  vulnerabilities : later.live.vulnerabilities = work.live.vulnerabilities
  verifications : later.live.verifications = work.live.verifications
  evidence : Agree VulnerabilityEvidence.content work.live.evidence later.live.evidence
  sightings : later.live.sightings = work.live.sightings
  occurrences : ∀ key, later.live.occurrences.get? key =
    if key ∈ keys then (work.live.occurrences.get? key).map (.movedTo target)
    else work.live.occurrences.get? key

/-- **One occurrence moves with its evidence.** -/
theorem movedAll_splitOccurrence (work : Work) (target : Nat)
    (row : Nat × VulnerabilityOccurrence) :
    MovedAll target [row.1] work (splitOccurrence work target row) := by
  unfold splitOccurrence
  extract_lets moved
  obtain ⟨stored, vulnerabilities, verifications, occurrences, evidence⟩ := evidence_foldl target
    (moved.query Store.evidence fun _ evidence => evidence.occurrenceId == some row.1) moved
  refine ⟨stored, vulnerabilities, verifications, evidence, ?_, fun key => ?_⟩
  · refine (congrArg (fun table : Table VulnerabilityOccurrence =>
      table.total VulnerabilityOccurrence.occurrenceCount) occurrences).trans ?_
    exact Table.total_modify_of_eq _ _ _ fun _ => rfl
  · refine (congrArg (fun table : Table VulnerabilityOccurrence => table.get? key)
      occurrences).trans ((Table.get?_modify work.live.occurrences row.1 key _).trans ?_)
    simp only [List.mem_singleton]
    rfl

/-- The loop over the rows moves all of them. -/
theorem movedAll_foldl (target : Nat) (rows : List (Nat × VulnerabilityOccurrence)) (work : Work) :
    MovedAll target (rows.map Prod.fst) work
      (rows.foldl (fun work row => splitOccurrence work target row) work) := by
  induction rows generalizing work with
  | nil => exact ⟨rfl, rfl, rfl, .refl _, rfl, fun _ => rfl⟩
  | cons row rest ih =>
    have first := movedAll_splitOccurrence work target row
    have later := ih (splitOccurrence work target row)
    refine ⟨later.stored.trans first.stored, later.vulnerabilities.trans first.vulnerabilities,
      later.verifications.trans first.verifications, first.evidence.trans later.evidence,
      later.sightings.trans first.sightings, fun key => ?_⟩
    rw [List.foldl_cons, later.occurrences, first.occurrences, List.map_cons]
    have twice : (work.live.occurrences.get? key).map
        (VulnerabilityOccurrence.movedTo target ∘ VulnerabilityOccurrence.movedTo target) =
          (work.live.occurrences.get? key).map (.movedTo target) := rfl
    by_cases here : key = row.1
    · by_cases again : key ∈ rest.map Prod.fst
      · rw [if_pos again, if_pos (List.mem_singleton.mpr here), Option.map_map, twice,
          if_pos (List.mem_cons_of_mem _ again)]
      · rw [if_neg again, if_pos (List.mem_singleton.mpr here),
          if_pos (List.mem_cons.mpr (.inl here))]
    · have same : key ∈ row.1 :: rest.map Prod.fst ↔ key ∈ rest.map Prod.fst := by
        simp [here]
      simp only [List.mem_singleton, if_neg here, same]

/-- A store before and after a split. -/
structure SplitOff (now : Instant) (source : Nat) (moved : List Nat) (store written : Store) :
    Prop where
  moves : moved ≠ []
  owned : ∀ key ∈ moved, ∃ occurrence, store.occurrences.get? key = some occurrence ∧
    occurrence.vulnerabilityId = source
  verifications : written.verifications = store.verifications
  evidence : Agree VulnerabilityEvidence.content store.evidence written.evidence
  sightings : written.sightings = store.sightings
  created : ∃ old new fingerprint title first last,
    store.vulnerabilities.get? source = some old ∧
    written.vulnerabilities.get? store.vulnerabilities.nextKey = some new ∧
    Rescored now (old.split fingerprint title first last) new ∧
    ∀ key record, store.vulnerabilities.get? key = some record → record.fingerprint ≠ fingerprint
  kept : ∀ old, store.vulnerabilities.get? source = some old →
    ∃ new, written.vulnerabilities.get? source = some new ∧ Rescored now old new
  others : ∀ key, key ≠ source → key ≠ store.vulnerabilities.nextKey →
    written.vulnerabilities.get? key = store.vulnerabilities.get? key
  occurrences : ∀ key, written.occurrences.get? key =
    if key ∈ moved then
      (store.occurrences.get? key).map (.movedTo store.vulnerabilities.nextKey)
    else store.occurrences.get? key

section Split

variable {store : Store} {now : Instant} {source : Nat} {record : VulnerabilityRecord}

theorem splitOff_of_movedAll {fingerprint : String} {title : Option String} {first last : Instant}
    {rows : List (Nat × VulnerabilityOccurrence)} {note : VulnerabilityStatusHistory} {work : Work}
    (stored : store.vulnerabilities.get? source = some record)
    (fresh : ∀ key other, store.vulnerabilities.get? key = some other →
      other.fingerprint ≠ fingerprint)
    (moves : rows ≠ [])
    (owned : ∀ row ∈ rows, ∃ occurrence, store.occurrences.get? row.1 = some occurrence ∧
      occurrence.vulnerabilityId = source)
    (moved : MovedAll store.vulnerabilities.nextKey (rows.map Prod.fst)
      ((UnitOfWork.start store).write
        (Store.addVulnerability (record.split fingerprint title first last))).flush work) :
    SplitOff now source (rows.map Prod.fst) store
      (calculatePriority (calculatePriority (work.write (Store.addHistory note)) source now)
        store.vulnerabilities.nextKey now).live := by
  have looked := (looked_calculatePriority now (work.write (Store.addHistory note)) source).trans
    (looked_calculatePriority now _ store.vulnerabilities.nextKey)
  have rest : ∀ key, key ≠ source → key ≠ store.vulnerabilities.nextKey →
      (calculatePriority (calculatePriority (work.write (Store.addHistory note)) source now)
        store.vulnerabilities.nextKey now).live.vulnerabilities.get? key =
          work.live.vulnerabilities.get? key :=
    fun key apart old => ((onlyAt_calculatePriority _ _ now).rows key old).trans
      ((onlyAt_calculatePriority _ source now).rows key apart)
  have inserted : ∀ key, work.live.vulnerabilities.get? key =
      if key = store.vulnerabilities.nextKey then some (record.split fingerprint title first last)
      else store.vulnerabilities.get? key := by
    intro key
    rw [moved.vulnerabilities]
    exact Table.get?_insert _ _ key
  have older : ∀ {key row}, store.vulnerabilities.get? key = some row →
      key ≠ store.vulnerabilities.nextKey := fun row => (Table.lt_nextKey_of_get? row).ne
  refine ⟨fun none => moves (List.map_eq_nil_iff.mp none), fun key member => ?_, ?_, ?_, ?_, ?_,
    fun old there => ?_, fun key apart new => ?_, fun key => ?_⟩
  · obtain ⟨row, place, rfl⟩ := List.mem_map.mp member
    exact owned row place
  · exact looked.live.verifications.trans moved.verifications
  · rw [looked.live.evidence]
    exact moved.evidence
  · unfold Store.sightings
    rw [looked.live.occurrences]
    exact moved.sightings
  · have row : (work.write (Store.addHistory note)).live.vulnerabilities.get?
        store.vulnerabilities.nextKey = some (record.split fingerprint title first last) :=
      (inserted _).trans (if_pos rfl)
    obtain ⟨new, found, scored⟩ := looked.live.exists_rescored row
    exact ⟨record, new, fingerprint, title, first, last, stored, found, scored, fresh⟩
  · have row : (work.write (Store.addHistory note)).live.vulnerabilities.get? source = some old :=
      ((inserted _).trans (if_neg (older there))).trans there
    exact looked.live.exists_rescored row
  · rw [rest key apart new, inserted, if_neg new]
  · rw [looked.live.occurrences]
    exact moved.occurrences key

end Split

/-- **A split is refused, or moves occurrences of its source to a new vulnerability.** -/
theorem splitOff_of_split (env : VmPlatform) (store : Store) (actor : Actor) (now : Instant)
    (source : Nat) (ids : List Nat) (title : Option String) (note : String) :
    (splitVulnerability env store actor now source ids title note).store = store ∨
      ∃ moved, SplitOff now source moved store
        (splitVulnerability env store actor now source ids title note).store := by
  unfold splitVulnerability withVulnerability
  simp only
  split
  · exact .inl rfl
  rename_i record stored
  split
  · exact .inl rfl
  split
  · exact .inl rfl
  split
  · exact .inl rfl
  rename_i head rest shape
  split
  · exact .inl rfl
  rename_i unused
  refine .inr ⟨_, splitOff_of_movedAll stored (fun key other there same => unused ?_) ?_ ?_
    (movedAll_foldl _ _ _)⟩
  · refine List.find?_isSome.mpr ⟨(key, other), ?_, beq_iff_eq.mpr same⟩
    exact (Table.get?_eq_some_iff _ key other).mp there
  · intro none
    rw [none] at shape
    cases shape
  · rintro ⟨key, value⟩ member
    obtain ⟨⟨old, there, passes⟩, -⟩ := UnitOfWork.mem_query_iff.mp member
    simp only [Bool.and_eq_true, beq_iff_eq] at passes
    exact ⟨old, there, passes.1⟩

/-!
## Merges and their targets

A merge points its sources to the target, and hands it their occurrences. Where the target is
not merged itself, the pointers stay a forest and every occurrence stays with a root
(`merges_keep_forest`); the counts and the evidence stay whatever the target is
(`sightings_next`). `merge_vulnerabilities` does not ask whether its target is merged, so
two merges in a row can point two vulnerabilities at each other (`merge_cycle`).
-/

/-- The column `vm_vulnerabilities.merged_into_id`. -/
def Store.parent (store : Store) (key : Nat) : Option (Option Nat) :=
  (store.vulnerabilities.get? key).map VulnerabilityRecord.mergedIntoId

/-- The pointers of merged vulnerabilities end at one that is not merged, and every
occurrence belongs to such a one. -/
structure Store.MergeForest (store : Store) : Prop where
  settled : ∀ key record, store.vulnerabilities.get? key = some record →
    Settled store.parent key
  occurrences : ∀ key occurrence, store.occurrences.get? key = some occurrence →
    store.parent occurrence.vulnerabilityId = some none

theorem Store.MergeForest.of_rows {store : Store}
    (records : (store.vulnerabilities.rows.all fun row => row.2.mergedIntoId == none) = true)
    (occurrences : (store.occurrences.rows.all fun row =>
      store.parent row.2.vulnerabilityId == some none) = true) : store.MergeForest := by
  rw [List.all_eq_true] at records occurrences
  constructor
  · intro key record stored
    have unmerged := records (key, record) ((Table.get?_eq_some_iff _ key record).mp stored)
    exact .root ((congrArg (Option.map _) stored).trans (congrArg some (beq_iff_eq.mp unmerged)))
  · intro key occurrence stored
    exact beq_iff_eq.mp
      (occurrences (key, occurrence) ((Table.get?_eq_some_iff _ key occurrence).mp stored))

/-! ## One call -/

/-- The calls that merge and split. -/
def VmCall.Regroups : VmCall → Prop
  | .merge _ _ _ => True
  | .split _ _ _ _ => True
  | _ => False

/-- A merge whose target is not merged. -/
def VmRequest.TargetsRoot (store : Store) (request : VmRequest) : Prop :=
  match request.call with
  | .merge target _ _ => ∀ record, store.vulnerabilities.get? target = some record →
      record.mergedIntoId = none
  | _ => True

section Steps

variable {now : Instant} {target source : Nat} {keys : List Nat} {store written : Store}

theorem Merged.parent (merged : Merged now target keys store written) :
    (∀ key ∈ keys, store.parent key ≠ none → written.parent key = some (some target)) ∧
      ∀ key ∉ keys, written.parent key = store.parent key := by
  constructor
  · intro key member known
    obtain ⟨_, stored⟩ := Option.ne_none_iff_exists'.mp known
    obtain ⟨record, there, -⟩ := Option.map_eq_some_iff.mp stored
    unfold Store.parent
    rw [merged.merged key member, there]
    rfl
  · intro key outside
    by_cases here : key = target
    · obtain ⟨old, new, first, last, before, after, scored⟩ := merged.widened
      rw [here]
      unfold Store.parent
      rw [before, after]
      exact congrArg some scored.mergedIntoId
    · unfold Store.parent
      rw [merged.others key outside here]

/-- **A merge into a root keeps the forest.** -/
theorem Store.MergeForest.merge (forest : store.MergeForest)
    (merged : Merged now target keys store written)
    (root : ∀ record, store.vulnerabilities.get? target = some record →
      record.mergedIntoId = none) : written.MergeForest := by
  obtain ⟨moves, keeps⟩ := merged.parent
  obtain ⟨old, new, first, last, before, after, scored⟩ := merged.widened
  have oldRoot : store.parent target = some none :=
    (congrArg (Option.map _) before).trans (congrArg some (root old before))
  have newRoot : written.parent target = some none :=
    (keeps target merged.apart).trans oldRoot
  constructor
  · intro key record stored
    have known : ∃ record, store.vulnerabilities.get? key = some record := by
      by_cases member : key ∈ keys
      · rw [merged.merged key member] at stored
        obtain ⟨other, there, -⟩ := Option.map_eq_some_iff.mp stored
        exact ⟨other, there⟩
      · by_cases here : key = target
        · exact ⟨old, here ▸ before⟩
        · exact ⟨record, (merged.others key member here).symm.trans stored⟩
    obtain ⟨other, there⟩ := known
    refine (forest.settled key other there).redirect
      (fun node => node ∈ keys ∧ store.parent node ≠ none) newRoot
      (fun node move => moves node move.1 move.2) fun node stays present => ?_
    exact keeps node fun member => stays ⟨member, present⟩
  · intro key occurrence stored
    obtain ⟨other, there, -, owner⟩ := merged.homes key occurrence stored
    rw [owner]
    split
    · exact newRoot
    · rename_i outside
      exact (keeps _ outside).trans (forest.occurrences key other there)

/-- **A split keeps the forest**: it adds a root. -/
theorem Store.MergeForest.split (forest : store.MergeForest)
    (splits : SplitOff now source keys store written) : written.MergeForest := by
  obtain ⟨old, new, fingerprint, title, first, last, before, after, scored, -⟩ := splits.created
  have newRoot : written.parent store.vulnerabilities.nextKey = some none :=
    (congrArg (Option.map _) after).trans (congrArg some scored.mergedIntoId)
  have keeps : ∀ key, store.parent key ≠ none → written.parent key = store.parent key := by
    intro key known
    obtain ⟨_, stored⟩ := Option.ne_none_iff_exists'.mp known
    obtain ⟨record, there, -⟩ := Option.map_eq_some_iff.mp stored
    by_cases here : key = source
    · subst here
      obtain ⟨kept, found, same⟩ := splits.kept record there
      unfold Store.parent
      rw [found, there]
      exact congrArg some same.mergedIntoId
    · unfold Store.parent
      rw [splits.others key here (Table.lt_nextKey_of_get? there).ne]
  constructor
  · intro key record stored
    by_cases fresh : key = store.vulnerabilities.nextKey
    · rw [fresh]
      exact .root newRoot
    · have known : ∃ record, store.vulnerabilities.get? key = some record := by
        by_cases here : key = source
        · exact ⟨old, here ▸ before⟩
        · exact ⟨record, (splits.others key here fresh).symm.trans stored⟩
      obtain ⟨other, there⟩ := known
      exact (forest.settled key other there).congr keeps
  · intro key occurrence stored
    rw [splits.occurrences key] at stored
    split at stored
    · obtain ⟨other, -, rfl⟩ := Option.map_eq_some_iff.mp stored
      exact newRoot
    · have root := forest.occurrences key occurrence stored
      exact (keeps _ (by simp [root])).trans root

end Steps

/-! ## Runs -/

section Runs

variable (env : VmPlatform)

/-- **Merging and splitting neither lose nor invent a sighting or a piece of evidence.** -/
theorem sightings_next (store : Store) {request : VmRequest} (regroups : request.call.Regroups) :
    (store.next env request).sightings = store.sightings ∧
      Agree VulnerabilityEvidence.content store.evidence
        (store.next env request).evidence := by
  obtain ⟨actor, now, call⟩ := request
  cases call with
  | merge target ids note =>
    rcases merged_of_merge store actor now target ids note with same | ⟨keys, merged⟩
    · have unchanged : store.next env ⟨actor, now, .merge target ids note⟩ = store := same
      rw [unchanged]
      exact ⟨rfl, .refl _⟩
    · exact ⟨merged.sightings, merged.evidence⟩
  | split source ids title note =>
    rcases splitOff_of_split env store actor now source ids title note with
      same | ⟨keys, splits⟩
    · have unchanged : store.next env ⟨actor, now, .split source ids title note⟩ = store :=
        same
      rw [unchanged]
      exact ⟨rfl, .refl _⟩
    · exact ⟨splits.sightings, splits.evidence⟩
  | _ => cases regroups

/-- **A merge into a root, and a split, keep the forest.** -/
theorem mergeForest_next {store : Store} (forest : store.MergeForest) {request : VmRequest}
    (regroups : request.call.Regroups) (root : request.TargetsRoot store) :
    (store.next env request).MergeForest := by
  obtain ⟨actor, now, call⟩ := request
  cases call with
  | merge target ids note =>
    rcases merged_of_merge store actor now target ids note with same | ⟨keys, merged⟩
    · have unchanged : store.next env ⟨actor, now, .merge target ids note⟩ = store := same
      rwa [unchanged]
    · exact forest.merge merged root
  | split source ids title note =>
    rcases splitOff_of_split env store actor now source ids title note with
      same | ⟨keys, splits⟩
    · have unchanged : store.next env ⟨actor, now, .split source ids title note⟩ = store :=
        same
      rwa [unchanged]
    · exact forest.split splits
  | _ => cases regroups

/-- **Where no merge targets a merged vulnerability, merging and splitting keep the forest**,
and what was sighted. -/
theorem merges_keep_forest (start : Store) (requests : List VmRequest)
    (initially : start.MergeForest) (regroup : ∀ request ∈ requests, request.call.Regroups)
    (roots : ∀ move ∈ trace (Store.next env) start requests,
      move.input.TargetsRoot move.before) :
    ∀ move ∈ trace (Store.next env) start requests,
      move.after.MergeForest ∧
        move.after.sightings = move.before.sightings ∧
        Agree VulnerabilityEvidence.content move.before.evidence
          move.after.evidence := by
  intro move member
  have forest := (invariant_along_trace (Store.next env) Store.MergeForest
    (fun move => move.input.call.Regroups ∧
      move.input.TargetsRoot move.before)
    (fun _ _ forest allowed => mergeForest_next env forest allowed.1 allowed.2) initially
    (fun other place => ⟨regroup _ (input_mem_of_mem_trace _ place), roots other place⟩)
    move member).2
  refine ⟨forest, ?_⟩
  rw [after_eq_of_mem_trace _ member]
  exact sightings_next env move.before
    (regroup _ (input_mem_of_mem_trace _ member))

end Runs

/-! ## Two vulnerabilities merged into each other -/

/-- Another finding of the scanner. -/
def missingPolicy : Candidate :=
  { missingHeader with
    sourceEntityId := 8
    title := "Missing CSP"
    evidence := "no policy"
    sourceFingerprint := some "csp" }

def twoFindings : Store :=
  final (Store.next plainVm) .empty [⟨admin, 0, .ingest [missingHeader, missingPolicy]⟩]

theorem twoFindings_rows :
    (twoFindings.vulnerabilities.rows.all fun row => row.2.mergedIntoId == none) = true ∧
      (twoFindings.occurrences.rows.all fun row =>
        twoFindings.parent row.2.vulnerabilityId == some none) = true ∧
      twoFindings.parent 1 = some none := by
  decide +kernel

theorem twoFindings_forest : twoFindings.MergeForest :=
  .of_rows twoFindings_rows.1 twoFindings_rows.2.1

/-- Each is merged into the other. -/
def mergedBothWays : List VmRequest :=
  [⟨admin, 1, .merge 1 [2] "same header"⟩, ⟨admin, 2, .merge 2 [1] "same header"⟩]

/-- **After two merges no record is left that is not merged.** -/
theorem merge_cycle :
    twoFindings.MergeForest ∧ (∀ request ∈ mergedBothWays, request.call.Regroups) ∧
      ¬(final (Store.next plainVm) twoFindings mergedBothWays).MergeForest := by
  refine ⟨twoFindings_forest, ?_, fun forest => ?_⟩
  · simp [mergedBothWays, VmCall.Regroups]
  · obtain ⟨one, two⟩ :
        (final (Store.next plainVm) twoFindings mergedBothWays).parent 1 = some (some 2) ∧
          (final (Store.next plainVm) twoFindings mergedBothWays).parent 2 = some (some 1) := by
      decide +kernel
    obtain ⟨record, stored, -⟩ := Option.map_eq_some_iff.mp one
    refine not_settled (fun node => node = 1 ∨ node = 2) ?_
      (forest.settled 1 record stored) (.inl rfl)
    rintro node (rfl | rfl)
    · exact ⟨2, one, .inr rfl⟩
    · exact ⟨1, two, .inl rfl⟩

theorem merges_keep_forest_split :
    twoFindings.MergeForest ∧
    ∀ move ∈ trace (Store.next plainVm) twoFindings
        [⟨admin, 1, .merge 1 [2] "same header"⟩, ⟨admin, 2, .split 1 [2] none "not the same"⟩],
      move.after.MergeForest ∧
        move.after.sightings = move.before.sightings ∧
        Agree VulnerabilityEvidence.content move.before.evidence
          move.after.evidence := by
  refine ⟨twoFindings_forest, ?_⟩
  refine merges_keep_forest plainVm twoFindings _ twoFindings_forest ?_ ?_
  · simp [VmCall.Regroups]
  · intro move member
    rcases List.mem_cons.mp member with rfl | later
    · intro record stored
      have same : twoFindings.parent 1 = some record.mergedIntoId :=
        congrArg (Option.map _) stored
      exact Option.some.inj (same.symm.trans twoFindings_rows.2.2)
    · rcases List.mem_cons.mp later with rfl | none
      · trivial
      · cases none

end ThreatScope.Vulnerabilities
