import ThreatScope.Library.SortedKeys

/-!
# Dictionaries written entry by entry

A dictionary comprehension writes its entries one after the other. What is left is the last
entry under each key, at the place of the first one (`mem_ofEntries_iff`,
`keys_ofEntries_congr`). Where no two entries share a key, the entries are the dictionary
(`ofEntries_of_nodup`). The same holds of the values of a dictionary of items under a key of
theirs (`mem_valuesByKey_iff`).
-/

set_option autoImplicit false

namespace ThreatScope.Library

universe u

/-! ## The last item under each key -/

section Lasts

variable {α : Type u} {κ : Type} [DecidableEq κ]

/-- The items that no later item shares a key with. -/
def lasts (key : α → κ) : List α → List α
  | [] => []
  | item :: rest =>
    if rest.any fun later => key later = key item then lasts key rest
    else item :: lasts key rest

variable {key : α → κ}

/-- An item is kept exactly if no later one has its key. -/
theorem mem_lasts_iff {items : List α} {item : α} :
    item ∈ lasts key items ↔ ∃ before after, items = before ++ item :: after ∧
      ∀ later ∈ after, key later ≠ key item := by
  induction items with
  | nil =>
    refine ⟨fun member => (by cases member), ?_⟩
    rintro ⟨before, after, split, -⟩
    cases before <;> cases split
  | cons first rest ih =>
    have tail : (∃ before after, first :: rest = before ++ item :: after ∧
        ∀ later ∈ after, key later ≠ key item) ↔
          (first = item ∧ ∀ later ∈ rest, key later ≠ key item) ∨ item ∈ lasts key rest := by
      rw [ih]
      constructor
      · rintro ⟨before, after, split, free⟩
        cases before with
        | nil =>
          obtain ⟨rfl, rfl⟩ := List.cons.inj split
          exact .inl ⟨rfl, free⟩
        | cons other before =>
          obtain ⟨rfl, rfl⟩ := List.cons.inj split
          exact .inr ⟨before, after, rfl, free⟩
      · rintro (⟨rfl, free⟩ | ⟨before, after, rfl, free⟩)
        · exact ⟨[], rest, rfl, free⟩
        · exact ⟨first :: before, after, rfl, free⟩
    rw [tail, lasts]
    by_cases again : (rest.any fun later => key later = key first) = true
    · rw [if_pos again, or_iff_right]
      rintro ⟨rfl, free⟩
      obtain ⟨later, member, same⟩ := List.any_eq_true.mp again
      exact free later member (of_decide_eq_true same)
    · rw [if_neg again, List.mem_cons]
      have free : ∀ later ∈ rest, key later ≠ key first := fun later member same =>
        again (List.any_eq_true.mpr ⟨later, member, decide_eq_true same⟩)
      refine or_congr_left ⟨?_, fun both => both.1.symm⟩
      rintro rfl
      exact ⟨rfl, free⟩

theorem lasts_concat (items : List α) (last : α) :
    lasts key (items ++ [last]) =
      (lasts key items).filter (fun item => key item ≠ key last) ++ [last] := by
  induction items with
  | nil => rfl
  | cons item rest ih =>
    rw [List.cons_append, lasts, lasts, ih, List.any_append, List.any_cons, List.any_nil,
      Bool.or_false]
    cases again : rest.any fun later => decide (key later = key item) with
    | true => rw [Bool.true_or, if_pos rfl, if_pos rfl]
    | false =>
      rw [Bool.false_or, if_neg Bool.false_ne_true, List.filter_cons]
      by_cases here : key item = key last
      · rw [if_pos (decide_eq_true here.symm), if_neg (by simp [here])]
      · rw [if_neg (by simpa using Ne.symm here), if_pos (by simpa using here),
          List.cons_append]

theorem lasts_map {β : Type u} {other : β → κ} {change : α → β}
    (kept : ∀ item, other (change item) = key item) (items : List α) :
    lasts other (items.map change) = (lasts key items).map change := by
  induction items with
  | nil => rfl
  | cons item rest ih =>
    rw [List.map_cons, lasts, lasts, List.any_map, ih]
    have same : (rest.any ((fun later => decide (other later = other (change item))) ∘ change)) =
        rest.any fun later => decide (key later = key item) := by
      congr 1
      funext later
      rw [Function.comp_apply, kept, kept]
    rw [same]
    split
    · rfl
    · rw [List.map_cons]

theorem lasts_forall₂ {relation : α → α → Prop}
    (keys : ∀ first second, relation first second → key first = key second)
    {items others : List α} (related : List.Forall₂ relation items others) :
    List.Forall₂ relation (lasts key items) (lasts key others) := by
  induction related with
  | nil => exact .nil
  | @cons item other rest tail head pairs ih =>
    have same : (rest.any fun later => decide (key later = key item)) =
        tail.any fun later => decide (key later = key other) := by
      rw [keys item other head]
      clear ih
      induction pairs with
      | nil => rfl
      | cons first _ ih => rw [List.any_cons, List.any_cons, keys _ _ first, ih]
    rw [lasts, lasts, same]
    split
    · exact ih
    · exact .cons head ih

end Lasts

/-! ## Items written under their keys -/

section Written

variable {α : Type u} {κ : Type} [DecidableEq κ]

/-- The values after an item is written under its key. -/
def writeItem (key : α → κ) (written : List α) (item : α) : List α :=
  if written.any fun other => key other = key item then
    written.map fun other => if key other = key item then item else other
  else written ++ [item]

/-- The values of `{key(item): item for item in items}`. -/
def valuesByKey (key : α → κ) (items : List α) : List α := items.foldl (writeItem key) []

variable {key : α → κ}

@[simp] theorem valuesByKey_concat (items : List α) (item : α) :
    valuesByKey key (items ++ [item]) = writeItem key (valuesByKey key items) item := by
  unfold valuesByKey
  rw [List.foldl_append, List.foldl_cons, List.foldl_nil]

theorem mem_writeItem_iff {written : List α} {item other : α} :
    other ∈ writeItem key written item ↔
      other = item ∨ (key other ≠ key item ∧ other ∈ written) := by
  unfold writeItem
  split
  · rename_i present
    rw [List.mem_map]
    constructor
    · rintro ⟨before, member, rfl⟩
      by_cases here : key before = key item
      · exact .inl (if_pos here)
      · rw [if_neg here]
        exact .inr ⟨here, member⟩
    · rintro (rfl | ⟨apart, member⟩)
      · obtain ⟨before, member, same⟩ := List.any_eq_true.mp present
        exact ⟨before, member, if_pos (of_decide_eq_true same)⟩
      · exact ⟨other, member, if_neg apart⟩
  · rename_i absent
    rw [List.mem_append, List.mem_singleton, or_comm]
    refine or_congr_right (iff_and_self.mpr fun member same => absent ?_)
    exact List.any_eq_true.mpr ⟨other, member, decide_eq_true same⟩

/-- **The values** are the last item under each key. -/
theorem mem_valuesByKey_iff {items : List α} {item : α} :
    item ∈ valuesByKey key items ↔ item ∈ lasts key items := by
  induction items using List.reverseRecOn with
  | nil => exact Iff.rfl
  | append_singleton items last ih =>
    rw [valuesByKey_concat, mem_writeItem_iff, ih, lasts_concat, List.mem_append,
      List.mem_singleton, List.mem_filter, decide_eq_true_eq, or_comm]
    exact or_congr_left and_comm

theorem nodup_keys_valuesByKey (items : List α) : ((valuesByKey key items).map key).Nodup := by
  induction items using List.reverseRecOn with
  | nil => exact List.nodup_nil
  | append_singleton items last ih =>
    rw [valuesByKey_concat, writeItem]
    split
    · rw [List.map_map]
      have same : key ∘ (fun other => if key other = key last then last else other) = key := by
        funext other
        rw [Function.comp_apply]
        split
        · rename_i here
          exact here.symm
        · rfl
      rwa [same]
    · rename_i absent
      rw [List.map_append, List.nodup_append]
      refine ⟨ih, List.nodup_singleton _, ?_⟩
      rintro name member _ new rfl
      obtain ⟨other, inside, same⟩ := List.mem_map.mp member
      refine absent (List.any_eq_true.mpr ⟨other, inside, decide_eq_true ?_⟩)
      exact same.trans (List.mem_singleton.mp new)

end Written

namespace Dict

/-! ## Writing one entry -/

theorem set_of_mem {fields : Dict} {key : String} (present : key ∈ fields.map Prod.fst)
    (value : Json) : set fields key value =
      fields.map fun field => if field.1 == key then (key, value) else field := by
  unfold set
  refine if_pos (List.any_eq_true.mpr ?_)
  obtain ⟨field, member, rfl⟩ := List.mem_map.mp present
  exact ⟨field, member, beq_self_eq_true _⟩

theorem set_of_not_mem {fields : Dict} {key : String} (absent : key ∉ fields.map Prod.fst)
    (value : Json) : set fields key value = fields ++ [(key, value)] := by
  unfold set
  refine if_neg fun present => absent ?_
  obtain ⟨field, member, same⟩ := List.any_eq_true.mp present
  exact List.mem_map.mpr ⟨field, member, beq_iff_eq.mp same⟩

theorem keys_set (fields : Dict) (key : String) (value : Json) :
    (set fields key value).map Prod.fst =
      if key ∈ fields.map Prod.fst then fields.map Prod.fst else fields.map Prod.fst ++ [key] := by
  split
  · rename_i present
    rw [set_of_mem present, List.map_map]
    refine List.map_congr_left fun field _ => ?_
    rw [Function.comp_apply]
    split
    · rename_i same
      exact (beq_iff_eq.mp same).symm
    · rfl
  · rename_i absent
    rw [set_of_not_mem absent, List.map_append]
    rfl

theorem mem_set_iff (fields : Dict) (key : String) (value : Json) (entry : String × Json) :
    entry ∈ set fields key value ↔ entry = (key, value) ∨ (entry.1 ≠ key ∧ entry ∈ fields) := by
  by_cases present : key ∈ fields.map Prod.fst
  · rw [set_of_mem present, List.mem_map]
    constructor
    · rintro ⟨field, member, rfl⟩
      by_cases here : field.1 = key
      · exact .inl (if_pos (beq_iff_eq.mpr here))
      · rw [if_neg (by simpa using here)]
        exact .inr ⟨here, member⟩
    · rintro (rfl | ⟨apart, member⟩)
      · obtain ⟨field, member, same⟩ := List.mem_map.mp present
        exact ⟨field, member, if_pos (beq_iff_eq.mpr same)⟩
      · exact ⟨entry, member, if_neg (by simpa using apart)⟩
  · rw [set_of_not_mem present, List.mem_append, List.mem_singleton, or_comm]
    refine or_congr_right (iff_and_self.mpr fun member same => present ?_)
    rw [← same]
    exact List.mem_map_of_mem member

theorem nodup_keys_set {fields : Dict} (distinct : (fields.map Prod.fst).Nodup) (key : String)
    (value : Json) : ((set fields key value).map Prod.fst).Nodup := by
  rw [keys_set]
  split
  · exact distinct
  · rename_i absent
    rw [List.nodup_append]
    refine ⟨distinct, List.nodup_singleton key, ?_⟩
    rintro other member last new rfl
    rw [List.mem_singleton] at new
    exact absent (new ▸ member)

/-! ## Writing all entries -/

/-- `{key: value for ..}`. -/
def ofEntries (entries : Dict) : Dict :=
  entries.foldl (fun written entry => set written entry.1 entry.2) []

@[simp] theorem ofEntries_concat (entries : Dict) (entry : String × Json) :
    ofEntries (entries ++ [entry]) = set (ofEntries entries) entry.1 entry.2 := by
  unfold ofEntries
  rw [List.foldl_append, List.foldl_cons, List.foldl_nil]

theorem nodup_keys_ofEntries (entries : Dict) : ((ofEntries entries).map Prod.fst).Nodup := by
  induction entries using List.reverseRecOn with
  | nil => exact List.nodup_nil
  | append_singleton entries entry ih =>
    rw [ofEntries_concat]
    exact nodup_keys_set ih _ _

theorem keys_ofEntries_congr {entries others : Dict}
    (keys : entries.map Prod.fst = others.map Prod.fst) :
    (ofEntries entries).map Prod.fst = (ofEntries others).map Prod.fst := by
  induction entries using List.reverseRecOn generalizing others with
  | nil =>
    rw [List.map_eq_nil_iff.mp keys.symm]
  | append_singleton entries entry ih =>
    rw [List.map_append, List.map_singleton] at keys
    obtain ⟨front, back, rfl, frontKeys, backKeys⟩ := List.map_eq_append_iff.mp keys.symm
    obtain ⟨last, rfl, lastKey⟩ := List.map_eq_singleton_iff.mp backKeys
    rw [ofEntries_concat, ofEntries_concat, keys_set, keys_set, ih frontKeys.symm, lastKey]

/-- **What is left** is the last entry under each key. -/
theorem mem_ofEntries_iff {entries : Dict} {entry : String × Json} :
    entry ∈ ofEntries entries ↔ entry ∈ lasts Prod.fst entries := by
  induction entries using List.reverseRecOn with
  | nil => exact Iff.rfl
  | append_singleton entries last ih =>
    rw [ofEntries_concat, mem_set_iff, ih, lasts_concat, List.mem_append, List.mem_singleton,
      List.mem_filter, decide_eq_true_eq, or_comm]
    exact or_congr_left and_comm

theorem ofEntries_congr {entries others : Dict} (keys : entries.map Prod.fst = others.map Prod.fst)
    (same : lasts Prod.fst entries = lasts Prod.fst others) :
    ofEntries entries = ofEntries others := by
  refine eq_of_keys_of_subset (keys_ofEntries_congr keys) (nodup_keys_ofEntries entries) ?_
  intro entry member
  rw [mem_ofEntries_iff, same] at member
  exact mem_ofEntries_iff.mpr member

theorem ofEntries_of_nodup {entries : Dict} (distinct : (entries.map Prod.fst).Nodup) :
    ofEntries entries = entries := by
  induction entries using List.reverseRecOn with
  | nil => rfl
  | append_singleton entries entry ih =>
    rw [List.map_append, List.nodup_append] at distinct
    obtain ⟨front, -, apart⟩ := distinct
    rw [ofEntries_concat, ih front, set_of_not_mem]
    intro member
    exact apart entry.1 member entry.1 (List.mem_singleton_self _) rfl

theorem length_ofEntries_le (entries : Dict) : (ofEntries entries).length ≤ entries.length := by
  induction entries using List.reverseRecOn with
  | nil => exact le_rfl
  | append_singleton entries entry ih =>
    have keys := congrArg List.length (keys_set (ofEntries entries) entry.1 entry.2)
    rw [List.length_map] at keys
    rw [ofEntries_concat, keys, List.length_append, List.length_singleton]
    split
    · rw [List.length_map]
      omega
    · rw [List.length_append, List.length_map, List.length_singleton]
      omega

end Dict

end ThreatScope.Library
