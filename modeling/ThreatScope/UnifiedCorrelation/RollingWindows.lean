import ThreatScope.AccessControl.Accounts
import ThreatScope.Library.Comprehensions
import ThreatScope.Library.RollingWindow

/-!
# The rolling window of a rule

`qualifying_window` of `unified_correlation/service.py` on any list of observations. One
observation of each fingerprint is kept, they are sorted by time, and each of them opens a
window. The span is a `timedelta`, which holds no more than `maxDeltaDays` days. Where it
holds the hours, the window returned is the largest one there is
(`rolling_window_maximal`).
-/

set_option autoImplicit false

namespace ThreatScope.UnifiedCorrelation

open Library AccessControl

/-! ## Observations -/

/-- A row of `entity_observations`. -/
structure EntityObservation where
  entityId : Nat
  sourceModule : String
  sourceRecordType : String
  sourceRecordId : Nat
  sourceInternalRoute : Option String
  titleSnapshot : String
  evidenceSnapshot : String
  severity : String
  confidence : String
  observedAt : Instant
  observationFingerprint : String
deriving DecidableEq

/-- An observation with its key. -/
abbrev StoredObservation := Nat × EntityObservation

/-- `{x.source_module for x in obs}`. -/
def modulesOf (observations : List StoredObservation) : List String :=
  (observations.map fun row => row.2.sourceModule).dedup

/-- The microseconds of an hour. -/
def hour : Instant := 3600000000

theorem length_modulesOf_le {one other : List StoredObservation}
    (subset : ∀ row ∈ one, row ∈ other) : (modulesOf one).length ≤ (modulesOf other).length := by
  refine ((List.nodup_dedup _).subperm fun name member => ?_).length_le
  unfold modulesOf at member ⊢
  rw [List.mem_dedup, List.mem_map] at member ⊢
  obtain ⟨row, inside, same⟩ := member
  exact ⟨row, subset row inside, same⟩

/-- `len({x.source_module for x in window}) >= minimum_sources`. -/
def enoughSources (minimumSources : Int) (window : List StoredObservation) : Bool :=
  decide (minimumSources ≤ (modulesOf window).length)

theorem enoughSources_mono {minimumSources : Int} (few many : List StoredObservation)
    (subset : few ⊆ many) (enough : enoughSources minimumSources few = true) :
    enoughSources minimumSources many = true := by
  unfold enoughSources at enough ⊢
  rw [decide_eq_true_eq] at enough ⊢
  have more := length_modulesOf_le fun row member => subset member
  omega

/-- `utc(x.observed_at)`. The column holds times without a zone, which are read as UTC. -/
def observedUtc (row : StoredObservation) : Int := row.2.observedAt

/-! ## The window -/

/-- What Python raises for a span of time that is too long. -/
inductive SpanError where
  | overflow
deriving DecidableEq

/-- The days that a `timedelta` holds at most. -/
def maxDeltaDays : Int := 999999999

/-- A `timedelta` holds the hours. -/
def HoldsHours (hours : Int) : Prop := -maxDeltaDays ≤ hours / 24 ∧ hours / 24 ≤ maxDeltaDays

instance (hours : Int) : Decidable (HoldsHours hours) := inferInstanceAs (Decidable (_ ∧ _))

/-- `timedelta(hours=hours)`, in microseconds. -/
def timedelta (hours : Int) : Except SpanError Int :=
  if HoldsHours hours then .ok (hours * hour) else .error .overflow

/-- `x.observation_fingerprint`. -/
def fingerprintOf (row : StoredObservation) : String := row.2.observationFingerprint

/-- `qualifying_window(obs, hours, minimum_sources)`. -/
def rollingWindow (observations : List StoredObservation) (hours minimumSources : Int) :
    Except SpanError (List StoredObservation) := do
  let unique := valuesByKey fingerprintOf observations
  let ordered := unique.mergeSort fun one other => observedUtc one ≤ observedUtc other
  let span ← timedelta hours
  return widest observedUtc span (enoughSources minimumSources) ordered []

/-! ## What the window is for -/

/-- The distinct observations of a list. The fingerprint is a unique column, so rows with one
fingerprint are copies of one observation. The last copy stands for it. -/
def distinctObservations (observations : List StoredObservation) : List StoredObservation :=
  lasts fingerprintOf observations

/-- A set of distinct observations that lie within some hours, the boundary included, and come
from at least so many modules. -/
structure IsRollingWindow (hours minimumSources : Int)
    (observations window : List StoredObservation) : Prop where
  nonempty : window ≠ []
  distinct : (window.map fingerprintOf).Nodup
  among : ∀ row ∈ window, row ∈ distinctObservations observations
  span : ∀ one ∈ window, ∀ other ∈ window, observedUtc other - observedUtc one ≤ hours * hour
  sources : minimumSources ≤ (modulesOf window).length

section Windows

variable {hours minimumSources : Int} {observations : List StoredObservation}

theorem mem_sorted_iff (row : StoredObservation) :
    row ∈ ((valuesByKey fingerprintOf observations).mergeSort fun one other =>
      observedUtc one ≤ observedUtc other) ↔ row ∈ distinctObservations observations := by
  rw [List.mem_mergeSort, mem_valuesByKey_iff, distinctObservations]

theorem nodup_fingerprints_sorted : (((valuesByKey fingerprintOf observations).mergeSort
    fun one other => observedUtc one ≤ observedUtc other).map fingerprintOf).Nodup :=
  (((List.mergeSort_perm _ _).map fingerprintOf).nodup_iff).mpr (nodup_keys_valuesByKey _)

theorem inOrder_mergeSort (rows : List StoredObservation) :
    InOrder observedUtc (rows.mergeSort fun one other => observedUtc one ≤ observedUtc other) := by
  refine (List.pairwise_mergeSort ?_ ?_ rows).imp fun holds => of_decide_eq_true holds
  · intro one middle other first second
    rw [decide_eq_true_eq] at first second ⊢
    exact first.trans second
  · intro one other
    rw [Bool.or_eq_true, decide_eq_true_eq, decide_eq_true_eq]
    exact le_total _ _

theorem isRollingWindow_iff {window : List StoredObservation} :
    IsRollingWindow hours minimumSources observations window ↔
      (window.map fingerprintOf).Nodup ∧ IsWindow observedUtc (hours * hour)
        (enoughSources minimumSources) (distinctObservations observations) window := by
  constructor
  · rintro ⟨nonempty, distinct, among, span, sources⟩
    exact ⟨distinct, nonempty, among, span, decide_eq_true sources⟩
  · rintro ⟨distinct, nonempty, among, span, passed⟩
    exact ⟨nonempty, distinct, among, span, of_decide_eq_true passed⟩

/-- The scan that `qualifying_window` makes. -/
def scanned (hours minimumSources : Int) (observations : List StoredObservation) :
    List StoredObservation :=
  widest observedUtc (hours * hour) (enoughSources minimumSources)
    ((valuesByKey fingerprintOf observations).mergeSort fun one other =>
      observedUtc one ≤ observedUtc other) []

/-- If a `timedelta` holds the hours, the function is the scan. -/
theorem rollingWindow_of_holds (holds : HoldsHours hours) :
    rollingWindow observations hours minimumSources =
      .ok (scanned hours minimumSources observations) := by
  unfold rollingWindow timedelta
  rw [if_pos holds]
  rfl

theorem rollingWindow_of_not_holds (beyond : ¬ HoldsHours hours) :
    rollingWindow observations hours minimumSources = .error .overflow := by
  unfold rollingWindow timedelta
  rw [if_neg beyond]
  rfl

theorem isRollingWindow_scanned (hours minimumSources : Int)
    (observations : List StoredObservation) :
    scanned hours minimumSources observations = [] ∨
      IsRollingWindow hours minimumSources observations
        (scanned hours minimumSources observations) := by
  have found := isWindow_widest observedUtc (hours * hour) (enoughSources minimumSources)
    (inOrder_mergeSort (valuesByKey fingerprintOf observations))
    (fun row => (mem_sorted_iff row).mp) (.inl rfl)
  refine found.imp_right fun window => isRollingWindow_iff.mpr ⟨?_, window⟩
  -- Every window is a part of the sorted rows, and so are its fingerprints.
  exact nodup_fingerprints_sorted.sublist
    ((widest_sublist (List.Sublist.refl _) (List.nil_sublist _)).map _)

theorem length_le_scanned {window : List StoredObservation}
    (found : IsRollingWindow hours minimumSources observations window) :
    window.length ≤ (scanned hours minimumSources observations).length := by
  obtain ⟨distinct, inside⟩ := isRollingWindow_iff.mp found
  exact length_le_widest enoughSources_mono
    (inside.mono fun row member => (mem_sorted_iff row).mpr member)
    (List.Nodup.of_map _ distinct) []

end Windows

/-! ## The largest window -/

/-- **`qualifying_window` returns the largest rolling window.** It fails where no `timedelta`
holds the hours. Otherwise what it returns is a rolling window unless it is empty, no rolling
window is larger, and it is empty exactly if there is none. -/
theorem rolling_window_maximal (observations : List StoredObservation)
    (hours minimumSources : Int) :
    match rollingWindow observations hours minimumSources with
    | .error _ => ¬ HoldsHours hours
    | .ok window => HoldsHours hours ∧
        (window ≠ [] → IsRollingWindow hours minimumSources observations window) ∧
        (∀ other, IsRollingWindow hours minimumSources observations other →
          other.length ≤ window.length) ∧
        (window = [] ↔ ∀ other, ¬ IsRollingWindow hours minimumSources observations other) := by
  by_cases holds : HoldsHours hours
  · rw [rollingWindow_of_holds holds]
    have sound := isRollingWindow_scanned hours minimumSources observations
    refine ⟨holds, sound.resolve_left, fun other found => length_le_scanned found, ?_⟩
    constructor
    · intro empty other found
      have smaller := length_le_scanned found
      rw [empty] at smaller
      exact found.nonempty (List.length_eq_zero_iff.mp (Nat.le_zero.mp smaller))
    · intro absent
      exact sound.resolve_right (absent _)
  · rw [rollingWindow_of_not_holds holds]
    exact holds

theorem rolling_window_overflows :
    ¬ ∃ window, rollingWindow [] 24000000000 2 = .ok window := by
  rintro ⟨window, returned⟩
  rw [rollingWindow_of_not_holds (by decide)] at returned
  cases returned

/-! ## More observations -/

section More

variable {few many : List StoredObservation} {hours later minimumSources fewer : Int}

theorem exists_distinct {row : StoredObservation} (member : row ∈ many) :
    ∃ kept ∈ distinctObservations many, fingerprintOf kept = fingerprintOf row := by
  unfold distinctObservations
  induction many generalizing row with
  | nil => cases member
  | cons first rest ih =>
    rw [lasts]
    split
    · rename_i again
      rcases List.mem_cons.mp member with rfl | inside
      · obtain ⟨copy, inside, same⟩ := List.any_eq_true.mp again
        obtain ⟨kept, place, also⟩ := ih inside
        exact ⟨kept, place, also.trans (of_decide_eq_true same)⟩
      · exact ih inside
    · rcases List.mem_cons.mp member with rfl | inside
      · exact ⟨row, List.mem_cons_self, rfl⟩
      · obtain ⟨kept, place, same⟩ := ih inside
        exact ⟨kept, List.mem_cons_of_mem _ place, same⟩

theorem mem_of_mem_distinct {row : StoredObservation} (kept : row ∈ distinctObservations many) :
    row ∈ many := by
  obtain ⟨before, after, split, -⟩ := mem_lasts_iff.mp kept
  rw [split]
  exact List.mem_append_right _ List.mem_cons_self

theorem eq_scanned {window : List StoredObservation}
    (returned : rollingWindow few hours minimumSources = .ok window) :
    window = scanned hours minimumSources few := by
  by_cases holds : HoldsHours hours
  · rw [rollingWindow_of_holds holds] at returned
    exact (Except.ok.inj returned).symm
  · rw [rollingWindow_of_not_holds holds] at returned
    cases returned

/-- **A rolling window never shrinks** when observations are added, in any place and as often as
one likes, the hours are extended or fewer modules are asked for. -/
theorem rolling_window_monotone
    (copies : ∀ one ∈ many, ∀ other ∈ many, fingerprintOf one = fingerprintOf other → one = other)
    (subset : few ⊆ many) (longer : hours ≤ later) (weaker : fewer ≤ minimumSources)
    {window wider : List StoredObservation}
    (first : rollingWindow few hours minimumSources = .ok window)
    (second : rollingWindow many later fewer = .ok wider) : window.length ≤ wider.length := by
  have kept {row : StoredObservation} (inside : row ∈ distinctObservations few) :
      row ∈ distinctObservations many := by
    have member := subset (mem_of_mem_distinct inside)
    obtain ⟨copy, place, same⟩ := exists_distinct member
    exact copies copy (mem_of_mem_distinct place) row member same ▸ place
  rw [eq_scanned first, eq_scanned second]
  rcases isRollingWindow_scanned hours minimumSources few with empty | found
  · rw [empty]
    exact Nat.zero_le _
  obtain ⟨nonempty, distinct, among, span, sources⟩ := found
  refine length_le_scanned ⟨nonempty, distinct, fun row inside => kept (among row inside), ?_,
    weaker.trans sources⟩
  intro one oneIn other otherIn
  have scaled : hours * hour ≤ later * hour := Int.mul_le_mul_of_nonneg_right longer (by decide)
  exact (span one oneIn other otherIn).trans scaled

def refusedLogin : StoredObservation :=
  (1, ⟨7, "soc_monitor", "soc_event", 3, none, "Refused login", "", "low", "high", 0, "a"⟩)

/-- A finding half an hour later. -/
def exposedPage : StoredObservation :=
  (2, ⟨7, "web_exposure", "finding", 4, none, "Exposed page", "", "medium", "high", hour / 2, "b"⟩)

/-- A login on the same day. -/
def lateLogin : StoredObservation :=
  (3, ⟨7, "soc_monitor", "soc_event", 5, none, "Login", "", "low", "high", 9 * hour, "c"⟩)

theorem rolling_window_monotone_login :
    (scanned 1 2 [refusedLogin, exposedPage]).length ≤
      (scanned 24 1 [lateLogin, exposedPage, refusedLogin, exposedPage]).length :=
  rolling_window_monotone (by decide +kernel) (by simp) (by decide) (by decide)
    (rollingWindow_of_holds (by decide)) (rollingWindow_of_holds (by decide))

end More

end ThreatScope.UnifiedCorrelation
