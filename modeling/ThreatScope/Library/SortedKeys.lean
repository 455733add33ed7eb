import ThreatScope.Library.JsonText

/-!
# Objects whose keys are sorted

Reading a key of a JSON object does not see the order of its fields, and sorting the keys
of an object a second time changes nothing. Writing a key is seen under that key only.
-/

set_option autoImplicit false

namespace ThreatScope.Library

namespace Dict

theorem find?_append (fields others : Dict) (key : String) :
    find? (fields ++ others) key = (find? fields key).or (find? others key) := by
  induction fields with
  | nil => simp
  | cons field rest ih =>
    rw [List.cons_append, find?_cons, find?_cons, ih]
    split <;> rfl

theorem isSome_find? (fields : Dict) (key : String) :
    (find? fields key).isSome = List.any fields fun field => field.1 == key := by
  induction fields with
  | nil => rfl
  | cons field rest ih =>
    rw [find?_cons, List.any_cons, ← ih]
    cases field.1 == key <;> rfl

theorem find?_replace_of_ne (fields : Dict) {key other : String} (value : Json)
    (apart : key ≠ other) :
    find? (List.map (fun field => if field.1 == key then (key, value) else field) fields) other =
      find? fields other := by
  induction fields with
  | nil => rfl
  | cons field rest ih =>
    rw [List.map_cons, find?_cons, find?_cons, ih]
    by_cases here : field.1 = key
    · simp [here, apart]
    · simp [here]

theorem find?_replace_self (fields : Dict) (key : String) (value : Json) :
    find? (List.map (fun field => if field.1 == key then (key, value) else field) fields) key =
      (find? fields key).map fun _ => value := by
  induction fields with
  | nil => rfl
  | cons field rest ih =>
    rw [List.map_cons, find?_cons, find?_cons, ih]
    by_cases here : field.1 = key
    · simp [here]
    · simp [here]

/-- **Writing a key.** -/
theorem find?_set (fields : Dict) (key other : String) (value : Json) :
    find? (set fields key value) other =
      if key = other then some value else find? fields other := by
  have present := isSome_find? fields key
  unfold set
  split
  · rename_i found
    rw [found] at present
    by_cases same : key = other
    · subst same
      obtain ⟨old, read⟩ := Option.isSome_iff_exists.mp present
      rw [find?_replace_self, read, if_pos rfl, Option.map_some]
    · rw [find?_replace_of_ne fields value same, if_neg same]
  · rename_i missing
    rw [Bool.not_eq_true] at missing
    rw [missing] at present
    rw [find?_append, find?_cons, find?_nil]
    by_cases same : key = other
    · subst same
      rw [Option.isSome_eq_false_iff.mp present |> Option.isNone_iff_eq_none.mp]
      simp
    · simp [same]

@[simp] theorem find?_set_self (fields : Dict) (key : String) (value : Json) :
    find? (set fields key value) key = some value := by
  rw [find?_set, if_pos rfl]

theorem find?_set_of_ne (fields : Dict) {key other : String} (value : Json) (apart : key ≠ other) :
    find? (set fields key value) other = find? fields other := by
  rw [find?_set, if_neg apart]

end Dict

/-! ## Sorted keys -/

theorem sortFields_eq_map (fields : Dict) :
    sortFields fields = fields.map fun field => (field.1, sortKeys field.2) := by
  induction fields with
  | nil => rfl
  | cons field rest ih =>
    obtain ⟨key, value⟩ := field
    rw [sortFields, ih, List.map_cons]

theorem Dict.find?_orderedInsert (field : String × Json) (fields : Dict) (key : String) :
    Dict.find? (List.orderedInsert keyLe field fields) key =
      if field.1 == key then some field.2 else Dict.find? fields key := by
  induction fields with
  | nil => rw [List.orderedInsert_nil, Dict.find?_cons]
  | cons other rest ih =>
    rw [List.orderedInsert_cons]
    by_cases first : keyLe field other
    · rw [if_pos first, Dict.find?_cons]
    · rw [if_neg first, Dict.find?_cons, Dict.find?_cons, ih]
      by_cases here : field.1 = key
      · have behind : other.1 ≠ key := by
          rintro rfl
          exact first (le_of_eq here)
        simp [here, behind]
      · simp [here]

theorem Dict.find?_insertionSort (fields : Dict) (key : String) :
    Dict.find? (List.insertionSort keyLe fields) key = Dict.find? fields key := by
  induction fields with
  | nil => rfl
  | cons field rest ih =>
    rw [List.insertionSort_cons, Dict.find?_orderedInsert, ih, Dict.find?_cons]

theorem Dict.find?_map_sortKeys (fields : Dict) (key : String) :
    Dict.find? (List.map (fun field => (field.1, sortKeys field.2)) fields) key =
      (Dict.find? fields key).map sortKeys := by
  induction fields with
  | nil => rfl
  | cons field rest ih =>
    rw [List.map_cons, Dict.find?_cons, Dict.find?_cons, ih]
    split <;> rfl

/-- **A key of an object with sorted keys.** -/
theorem find?_fields_sortKeys (fields : Dict) (key : String) :
    Dict.find? (sortKeys (.obj fields)).fields key = (Dict.find? fields key).map sortKeys := by
  rw [sortKeys, sortFields_eq_map]
  exact (Dict.find?_insertionSort _ key).trans (Dict.find?_map_sortKeys fields key)

theorem keyLe_trans {first second third : String × Json} (one : keyLe first second)
    (two : keyLe second third) : keyLe first third :=
  le_trans (α := String) one two

instance : IsTrans (String × Json) keyLe := ⟨fun _ _ _ => keyLe_trans⟩

instance : Std.Total (α := String × Json) keyLe := ⟨fun first second => le_total first.1 second.1⟩

mutual
/-- **Sorting the keys twice.** -/
theorem sortKeys_sortKeys : ∀ value : Json, sortKeys (sortKeys value) = sortKeys value
  | .null => rfl
  | .bool _ => rfl
  | .int _ => rfl
  | .float _ => rfl
  | .str _ => rfl
  | .arr items => by rw [sortKeys, sortKeys, sortItems_sortItems items]
  | .obj fields => by
    have again := sortFields_sortFields fields
    rw [sortFields_eq_map (sortFields fields)] at again
    have commute := List.map_insertionSort keyLe keyLe
      (fun field : String × Json => (field.1, sortKeys field.2)) (sortFields fields)
      fun _ _ _ _ => Iff.rfl
    rw [sortKeys, sortKeys, sortFields_eq_map, commute, again,
      (List.pairwise_insertionSort keyLe _).insertionSort_eq]

theorem sortItems_sortItems : ∀ items : List Json, sortItems (sortItems items) = sortItems items
  | [] => rfl
  | item :: rest => by
    rw [sortItems, sortItems, sortKeys_sortKeys item, sortItems_sortItems rest]

theorem sortFields_sortFields : ∀ fields : List (String × Json),
    sortFields (sortFields fields) = sortFields fields
  | [] => rfl
  | (key, value) :: rest => by
    rw [sortFields, sortFields, sortKeys_sortKeys value, sortFields_sortFields rest]
end

end ThreatScope.Library
