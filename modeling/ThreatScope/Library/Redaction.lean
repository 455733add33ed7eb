import ThreatScope.Library.Comprehensions

/-!
# Redaction of JSON values

A redactor copies a value down to a depth. It takes the first entries of a list or of a
dictionary, cuts texts and keys, and puts a marker in the place of what is below a key that it
hides. Keys that were different can be one key when they are cut, and the last one counts.

Two values with the same redaction need not be the same where secrets are stored. A secret is
below a sensitive key, and the redactor decides by itself which keys it hides. It tells two
secrets apart exactly where a sensitive key is reached that it does not hide
(`redactWithin_same_iff`). Redacting twice is redacting once, unless a hidden key can no
longer be seen to be one after the cut, at the last level (`redactWithin_again_iff`).
-/

set_option autoImplicit false

namespace ThreatScope.Library

/-! ## Secrets -/

namespace Json

variable (sensitive : String → Bool)

mutual
/-- The value with nothing below the sensitive keys. -/
def withoutSecrets : Json → Json
  | .arr items => .arr (withoutSecretsItems items)
  | .obj fields => .obj (withoutSecretsFields fields)
  | value => value

def withoutSecretsItems : List Json → List Json
  | [] => []
  | item :: rest => withoutSecrets item :: withoutSecretsItems rest

def withoutSecretsFields : List (String × Json) → List (String × Json)
  | [] => []
  | (key, value) :: rest =>
    (key, if sensitive key then .null else withoutSecrets value) :: withoutSecretsFields rest
end

/-- Two values that differ only in what is below sensitive keys. -/
def SameButSecrets (first second : Json) : Prop :=
  withoutSecrets sensitive first = withoutSecrets sensitive second

theorem withoutSecretsItems_eq (items : List Json) :
    withoutSecretsItems sensitive items = items.map (withoutSecrets sensitive) := by
  induction items with
  | nil => rfl
  | cons item rest ih => rw [withoutSecretsItems, ih, List.map_cons]

/-- A field with nothing below a sensitive key. -/
def withoutSecret (field : String × Json) : String × Json :=
  (field.1, if sensitive field.1 then .null else withoutSecrets sensitive field.2)

theorem withoutSecretsFields_eq (fields : Dict) :
    withoutSecretsFields sensitive fields = fields.map (withoutSecret sensitive) := by
  induction fields with
  | nil => rfl
  | cons field rest ih =>
    rw [withoutSecretsFields, ih]
    rfl

/-- Two fields that differ only in a secret. -/
def SameField (first second : String × Json) : Prop :=
  first.1 = second.1 ∧
    (sensitive first.1 = true ∨ SameButSecrets sensitive first.2 second.2)

variable {sensitive}

theorem withoutSecret_eq_iff {first second : String × Json} :
    withoutSecret sensitive first = withoutSecret sensitive second ↔
      SameField sensitive first second := by
  unfold withoutSecret SameField SameButSecrets
  rw [Prod.mk.injEq]
  refine and_congr_right fun same => ?_
  rw [← same]
  cases sensitive first.1 with
  | true => simp
  | false => simp

theorem sameButSecrets_arr_iff {items : List Json} {other : Json} :
    SameButSecrets sensitive (.arr items) other ↔
      ∃ others, other = .arr others ∧ List.Forall₂ (SameButSecrets sensitive) items others := by
  have lists (others : List Json) : SameButSecrets sensitive (.arr items) (.arr others) ↔
      List.Forall₂ (SameButSecrets sensitive) items others := by
    unfold SameButSecrets
    rw [withoutSecrets, withoutSecrets, Json.arr.injEq, withoutSecretsItems_eq,
      withoutSecretsItems_eq, ← List.forall₂_eq_eq_eq, List.forall₂_map_left_iff,
      List.forall₂_map_right_iff]
  constructor
  · intro same
    cases other with
    | arr others => exact ⟨others, rfl, (lists others).mp same⟩
    | _ => cases same
  · rintro ⟨others, rfl, same⟩
    exact (lists others).mpr same

theorem sameButSecrets_obj_iff {fields : Dict} {other : Json} :
    SameButSecrets sensitive (.obj fields) other ↔
      ∃ others, other = .obj others ∧ List.Forall₂ (SameField sensitive) fields others := by
  have dictionaries (others : Dict) : SameButSecrets sensitive (.obj fields) (.obj others) ↔
      List.Forall₂ (SameField sensitive) fields others := by
    unfold SameButSecrets
    rw [withoutSecrets, withoutSecrets, Json.obj.injEq, withoutSecretsFields_eq,
      withoutSecretsFields_eq, ← List.forall₂_eq_eq_eq, List.forall₂_map_left_iff,
      List.forall₂_map_right_iff]
    have pairs : (fun first second : String × Json => withoutSecret sensitive first =
        withoutSecret sensitive second) = SameField sensitive := by
      funext first second
      exact propext withoutSecret_eq_iff
    rw [pairs]
  constructor
  · intro same
    cases other with
    | obj others => exact ⟨others, rfl, (dictionaries others).mp same⟩
    | _ => cases same
  · rintro ⟨others, rfl, same⟩
    exact (dictionaries others).mpr same

end Json

theorem map_eq_of_forall₂ {α β γ : Type} {relation : α → β → Prop} {change : α → γ}
    {another : β → γ} {items : List α} {others : List β}
    (related : List.Forall₂ relation items others)
    (same : ∀ item ∈ items, ∀ other, relation item other → change item = another other) :
    items.map change = others.map another := by
  induction related with
  | nil => rfl
  | cons head _ ih =>
    rw [List.map_cons, List.map_cons, same _ (List.mem_cons_self ..) _ head,
      ih fun item member => same item (List.mem_cons_of_mem _ member)]

/-! ## Redactors -/

/-- How a redactor cuts values, and the keys below which it puts a marker. -/
structure Redactor where
  /-- How many entries of a list or a dictionary are kept. -/
  entries : Nat
  /-- How many letters of a key are kept. -/
  keyLetters : Nat
  /-- How many letters of a text are kept. -/
  letters : Nat
  hides : String → Bool
  /-- A marker is not cut. -/
  markers : 11 ≤ letters
  /-- What is seen in the part of a key that is kept is seen in the key. -/
  hides_of_cut : ∀ key, hides (Text.truncate keyLetters key) = true → hides key = true

namespace Redactor

open Json

/-- The marker below the last level. -/
def truncated : Json := .str "[TRUNCATED]"

/-- The marker below a hidden key. -/
def redacted : Json := .str "[REDACTED]"

variable (redactor : Redactor)

/-- The part of a key that is kept. -/
def cut (key : String) : String := Text.truncate redactor.keyLetters key

/-- The redaction of a value that may still nest the given number of levels. -/
def redactWithin : Nat → Json → Json
  | 0, _ => truncated
  | levels + 1, .obj fields =>
    .obj (Dict.ofEntries ((fields.take redactor.entries).map fun field =>
      (redactor.cut field.1,
        if redactor.hides field.1 then redacted else redactWithin levels field.2)))
  | levels + 1, .arr items => .arr ((items.take redactor.entries).map (redactWithin levels))
  | _ + 1, .str text => .str (Text.truncate redactor.letters text)
  | _ + 1, value => value

/-- What is left of a field. -/
def redactField (levels : Nat) (field : String × Json) : String × Json :=
  (redactor.cut field.1,
    if redactor.hides field.1 then redacted else redactor.redactWithin levels field.2)

/-- The fields that a redaction shows. -/
def shown (fields : Dict) : Dict :=
  lasts (fun field : String × Json => redactor.cut field.1) (fields.take redactor.entries)

/-- A sensitive key is reached that is not hidden, above the last level. -/
def leaks (sensitive : String → Bool) : Nat → Json → Bool
  | 0, _ => false
  | levels + 1, .obj fields =>
    (redactor.shown fields).any fun field =>
      !redactor.hides field.1 &&
        (sensitive field.1 && decide (0 < levels) || leaks sensitive levels field.2)
  | levels + 1, .arr items => (items.take redactor.entries).any (leaks sensitive levels)
  | _ + 1, _ => false

/-- At the last level a hidden key is reached that is not hidden once it is cut. -/
def unsettled : Nat → Json → Bool
  | 0, _ => false
  | levels + 1, .obj fields =>
    (redactor.shown fields).any fun field =>
      if redactor.hides field.1 then decide (levels = 0) && !redactor.hides (redactor.cut field.1)
      else unsettled levels field.2
  | levels + 1, .arr items => (items.take redactor.entries).any (unsettled levels)
  | _ + 1, _ => false

/-- A value within the bounds, that nests at most the given number of levels. -/
def Within : Nat → Json → Prop
  | levels + 1, .arr items =>
    items.length ≤ redactor.entries ∧ ∀ item ∈ items, Within levels item
  | levels + 1, .obj fields =>
    fields.length ≤ redactor.entries ∧
      ∀ field ∈ fields, field.1.length ≤ redactor.keyLetters ∧ Within levels field.2
  | _, .str text => text.length ≤ redactor.letters
  | 0, .arr _ => False
  | 0, .obj _ => False
  | _, _ => True

variable {redactor}

theorem cut_cut (key : String) : redactor.cut (redactor.cut key) = redactor.cut key := by
  unfold cut Text.truncate
  rw [String.toList_ofList, List.take_take, Nat.min_self]

theorem redactWithin_obj (levels : Nat) (fields : Dict) :
    redactor.redactWithin (levels + 1) (.obj fields) =
      .obj (Dict.ofEntries ((fields.take redactor.entries).map (redactor.redactField levels))) :=
  rfl

theorem redactWithin_arr (levels : Nat) (items : List Json) :
    redactor.redactWithin (levels + 1) (.arr items) =
      .arr ((items.take redactor.entries).map (redactor.redactWithin levels)) := rfl

theorem lasts_redactField (levels : Nat) (fields : Dict) :
    lasts Prod.fst ((fields.take redactor.entries).map (redactor.redactField levels)) =
      (redactor.shown fields).map (redactor.redactField levels) :=
  lasts_map (fun _ => rfl) _

theorem mem_redactFields_iff {levels : Nat} {fields : Dict} {entry : String × Json} :
    entry ∈ Dict.ofEntries ((fields.take redactor.entries).map (redactor.redactField levels)) ↔
      ∃ field ∈ redactor.shown fields, redactor.redactField levels field = entry := by
  rw [Dict.mem_ofEntries_iff, lasts_redactField, List.mem_map]

/-! ## Two runs -/

section Runs

variable {sensitive : String → Bool}

/-- Fields that differ only in secrets have the same keys, and show fields that differ only in
secrets. -/
theorem shown_forall₂ {fields others : Dict}
    (same : List.Forall₂ (SameField sensitive) fields others) :
    List.Forall₂ (SameField sensitive) (redactor.shown fields) (redactor.shown others) := by
  refine lasts_forall₂ (fun first second pair => ?_) (List.forall₂_take redactor.entries same)
  rw [pair.1]

theorem keys_redactField {levels : Nat} {fields others : Dict}
    (same : List.Forall₂ (SameField sensitive) fields others) :
    ((fields.take redactor.entries).map (redactor.redactField levels)).map Prod.fst =
      ((others.take redactor.entries).map (redactor.redactField levels)).map Prod.fst := by
  rw [List.map_map, List.map_map]
  refine map_eq_of_forall₂ (List.forall₂_take redactor.entries same) fun first _ second pair => ?_
  exact congrArg redactor.cut pair.1

/-- **What does not leak hides its secrets.** -/
theorem redactWithin_eq_of_not_leaks : ∀ (levels : Nat) {value other : Json},
    redactor.leaks sensitive levels value = false → SameButSecrets sensitive value other →
      redactor.redactWithin levels value = redactor.redactWithin levels other := by
  intro levels
  induction levels with
  | zero => exact fun _ _ => rfl
  | succ levels ih =>
    intro value other tight same
    cases value with
    | obj fields =>
      obtain ⟨others, rfl, pairs⟩ := sameButSecrets_obj_iff.mp same
      rw [redactWithin_obj, redactWithin_obj]
      refine congrArg Json.obj (Dict.ofEntries_congr (keys_redactField pairs) ?_)
      rw [lasts_redactField, lasts_redactField]
      refine map_eq_of_forall₂ (shown_forall₂ pairs) fun first member second pair => ?_
      obtain ⟨key, secret⟩ := pair
      unfold redactField
      rw [← key]
      refine Prod.ext rfl (ite_congr rfl (fun _ => rfl) fun shows => ?_)
      have tightField := List.any_eq_false.mp tight first member
      rw [Bool.not_eq_true] at shows
      rw [shows, Bool.not_false, Bool.true_and, Bool.or_eq_true, not_or, Bool.and_eq_true,
        not_and, decide_eq_true_eq, not_lt, Nat.le_zero, Bool.not_eq_true] at tightField
      rcases secret with hidden | alike
      · rw [tightField.1 hidden]
        rfl
      · exact ih tightField.2 alike
    | arr items =>
      obtain ⟨others, rfl, pairs⟩ := sameButSecrets_arr_iff.mp same
      rw [redactWithin_arr, redactWithin_arr]
      refine congrArg Json.arr (map_eq_of_forall₂ (List.forall₂_take redactor.entries pairs)
        fun first member second alike => ih ?_ alike)
      exact Bool.eq_false_iff.mpr (List.any_eq_false.mp tight first member)
    | _ =>
      cases other with
      | obj fields => cases same
      | arr items => cases same
      | _ =>
        first
        | cases same; rfl
        | cases same

theorem exists_replaced {α : Type} {relation : α → α → Prop} (itself : ∀ item, relation item item)
    {list before after : List α} {count : Nat} {item other : α}
    (split : list.take count = before ++ item :: after) (related : relation item other) :
    ∃ others, others.take count = before ++ other :: after ∧ List.Forall₂ relation list others := by
  refine ⟨before ++ other :: after ++ list.drop count, ?_, ?_⟩
  · have size : (before ++ other :: after).length = (list.take count).length := by
      rw [split, List.length_append, List.length_append, List.length_cons, List.length_cons]
    rw [List.length_take] at size
    rcases le_total count list.length with enough | short
    · exact List.take_left' (size.trans (Nat.min_eq_left enough))
    · rw [List.drop_of_length_le short, List.append_nil]
      exact List.take_of_length_le (by omega)
  · have unchanged (rest : List α) : List.Forall₂ relation rest rest :=
      List.forall₂_same.mpr fun item _ => itself item
    conv => arg 2; rw [← List.take_append_drop count list, split]
    exact List.rel_append (List.rel_append (unchanged before) (.cons related (unchanged after)))
      (unchanged _)

theorem sameField_refl (field : String × Json) : SameField sensitive field field :=
  ⟨rfl, .inr rfl⟩

theorem exists_redactWithin_ne (redactor : Redactor) (levels : Nat) (value : Json) :
    ∃ other, redactor.redactWithin (levels + 1) value ≠
      redactor.redactWithin (levels + 1) other := by
  by_cases nothing : redactor.redactWithin (levels + 1) value = .null
  · refine ⟨.bool true, fun same => ?_⟩
    rw [nothing] at same
    cases same
  · exact ⟨.null, nothing⟩

theorem exists_field_of_leaks {levels : Nat} {field : String × Json}
    (leak : (!redactor.hides field.1 &&
      (sensitive field.1 && decide (0 < levels) || redactor.leaks sensitive levels field.2)) = true)
    (deeper : redactor.leaks sensitive levels field.2 = true →
      ∃ other, SameButSecrets sensitive field.2 other ∧
        redactor.redactWithin levels field.2 ≠ redactor.redactWithin levels other) :
    ∃ other, SameField sensitive field (field.1, other) ∧
      redactor.redactField levels field ≠ redactor.redactField levels (field.1, other) := by
  rw [Bool.and_eq_true, Bool.not_eq_true', Bool.or_eq_true, Bool.and_eq_true,
    decide_eq_true_eq] at leak
  obtain ⟨shows, either⟩ := leak
  have apart {other : Json}
      (differ : redactor.redactWithin levels field.2 ≠ redactor.redactWithin levels other) :
      redactor.redactField levels field ≠ redactor.redactField levels (field.1, other) := by
    intro same
    have values := congrArg Prod.snd same
    unfold redactField at values
    dsimp only at values
    rw [shows] at values
    exact differ values
  rcases either with ⟨secret, above⟩ | inside
  · obtain ⟨lower, rfl⟩ := Nat.exists_eq_add_of_lt above
    rw [Nat.zero_add] at apart ⊢
    obtain ⟨other, differ⟩ := exists_redactWithin_ne redactor lower field.2
    exact ⟨other, ⟨rfl, .inl secret⟩, apart differ⟩
  · obtain ⟨other, alike, differ⟩ := deeper inside
    exact ⟨other, ⟨rfl, .inr alike⟩, apart differ⟩

theorem mem_redactFields_of_split (levels : Nat) {fields before after : Dict}
    {field : String × Json} (split : fields.take redactor.entries = before ++ field :: after)
    (free : ∀ later ∈ after, redactor.cut later.1 ≠ redactor.cut field.1) :
    redactor.redactField levels field ∈
      Dict.ofEntries ((fields.take redactor.entries).map (redactor.redactField levels)) :=
  mem_redactFields_iff.mpr ⟨field, mem_lasts_iff.mpr ⟨before, after, split, free⟩, rfl⟩

/-- **What leaks tells two secrets apart.** -/
theorem exists_other_of_leaks : ∀ (levels : Nat) {value : Json},
    redactor.leaks sensitive levels value = true →
      ∃ other, SameButSecrets sensitive value other ∧
        redactor.redactWithin levels value ≠ redactor.redactWithin levels other := by
  intro levels
  induction levels with
  | zero =>
    intro value leak
    cases leak
  | succ levels ih =>
    intro value leak
    cases value with
    | obj fields =>
      obtain ⟨field, member, fieldLeaks⟩ := List.any_eq_true.mp leak
      obtain ⟨another, alike, differ⟩ := exists_field_of_leaks fieldLeaks ih
      obtain ⟨before, after, split, free⟩ := mem_lasts_iff.mp member
      obtain ⟨others, taken, pairs⟩ := exists_replaced sameField_refl split alike
      refine ⟨.obj others, sameButSecrets_obj_iff.mpr ⟨others, rfl, pairs⟩, fun same => ?_⟩
      rw [redactWithin_obj, redactWithin_obj, Json.obj.injEq] at same
      have first := mem_redactFields_of_split levels split free
      have second := mem_redactFields_of_split levels taken free
      rw [← same] at second
      have distinct := Dict.nodup_keys_ofEntries
        ((fields.take redactor.entries).map (redactor.redactField levels))
      exact differ (List.inj_on_of_nodup_map distinct first second rfl)
    | arr items =>
      obtain ⟨item, member, itemLeaks⟩ := List.any_eq_true.mp leak
      obtain ⟨another, alike, differ⟩ := ih itemLeaks
      obtain ⟨before, after, split⟩ := List.append_of_mem member
      obtain ⟨others, taken, pairs⟩ := exists_replaced
        (fun _ => rfl : ∀ value, SameButSecrets sensitive value value) split alike
      refine ⟨.arr others, sameButSecrets_arr_iff.mpr ⟨others, rfl, pairs⟩, fun same => ?_⟩
      rw [redactWithin_arr, redactWithin_arr, Json.arr.injEq, taken, split, List.map_append,
        List.map_append, List.map_cons, List.map_cons] at same
      exact differ (List.cons.inj (List.append_cancel_left same)).1
    | _ => cases leak

/-- **A redactor keeps its secrets** exactly where it does not leak. -/
theorem redactWithin_same_iff (levels : Nat) (value : Json) :
    (∀ other, SameButSecrets sensitive value other →
      redactor.redactWithin levels value = redactor.redactWithin levels other) ↔
        redactor.leaks sensitive levels value = false := by
  constructor
  · intro hides
    by_contra leak
    rw [Bool.not_eq_false] at leak
    obtain ⟨other, alike, differ⟩ := exists_other_of_leaks levels leak
    exact differ (hides other alike)
  · exact fun tight other alike => redactWithin_eq_of_not_leaks levels tight alike

end Runs

/-! ## Redacting twice -/

section Again

theorem map_eq_self_iff {α : Type} {change : α → α} {items : List α} :
    items.map change = items ↔ ∀ item ∈ items, change item = item := by
  conv_lhs => rhs; rw [← List.map_id items]
  exact List.map_inj_left

/-- An object is redacted once and for all exactly if each field it shows is. -/
theorem redactWithin_obj_again (levels : Nat) (fields : Dict) :
    redactor.redactWithin (levels + 1) (redactor.redactWithin (levels + 1) (.obj fields)) =
        redactor.redactWithin (levels + 1) (.obj fields) ↔
      ∀ field ∈ redactor.shown fields, redactor.redactField levels
        (redactor.redactField levels field) = redactor.redactField levels field := by
  rw [redactWithin_obj]
  have each : (∀ field ∈ redactor.shown fields, redactor.redactField levels
      (redactor.redactField levels field) = redactor.redactField levels field) ↔
        ∀ entry ∈ Dict.ofEntries
          ((fields.take redactor.entries).map (redactor.redactField levels)),
            redactor.redactField levels entry = entry := by
    constructor
    · intro settled entry member
      obtain ⟨field, shown, rfl⟩ := mem_redactFields_iff.mp member
      exact settled field shown
    · exact fun settled field shown => settled _ (mem_redactFields_iff.mpr ⟨field, shown, rfl⟩)
  rw [each]
  have short := Dict.length_ofEntries_le
    ((fields.take redactor.entries).map (redactor.redactField levels))
  have distinct := Dict.nodup_keys_ofEntries
    ((fields.take redactor.entries).map (redactor.redactField levels))
  have keys : ∀ entry ∈ Dict.ofEntries ((fields.take redactor.entries).map
      (redactor.redactField levels)), redactor.cut entry.1 = entry.1 := by
    intro entry member
    obtain ⟨field, -, rfl⟩ := mem_redactFields_iff.mp member
    exact cut_cut field.1
  rw [List.length_map, List.length_take] at short
  generalize Dict.ofEntries ((fields.take redactor.entries).map (redactor.redactField levels)) =
    written at short distinct keys
  have sameKeys : (written.map (redactor.redactField levels)).map Prod.fst =
      written.map Prod.fst := by
    rw [List.map_map]
    exact List.map_congr_left keys
  rw [redactWithin_obj, List.take_of_length_le (by omega),
    Dict.ofEntries_of_nodup (by rw [sameKeys]; exact distinct), Json.obj.injEq, map_eq_self_iff]

theorem redactWithin_arr_again (levels : Nat) (items : List Json) :
    redactor.redactWithin (levels + 1) (redactor.redactWithin (levels + 1) (.arr items)) =
        redactor.redactWithin (levels + 1) (.arr items) ↔
      ∀ item ∈ items.take redactor.entries, redactor.redactWithin levels
        (redactor.redactWithin levels item) = redactor.redactWithin levels item := by
  have short : ((items.take redactor.entries).map (redactor.redactWithin levels)).length ≤
      redactor.entries := by
    rw [List.length_map, List.length_take]
    exact Nat.min_le_left ..
  rw [redactWithin_arr, redactWithin_arr, List.take_of_length_le short, Json.arr.injEq,
    List.map_map]
  exact List.map_inj_left

theorem redactWithin_redacted (levels : Nat) :
    redactor.redactWithin levels redacted = redacted ↔ levels ≠ 0 := by
  cases levels with
  | zero => simp [redactWithin, truncated, redacted]
  | succ levels =>
    have whole : "[REDACTED]".toList.take redactor.letters = "[REDACTED]".toList :=
      List.take_of_length_le ((by decide : _ ≤ 11).trans redactor.markers)
    refine iff_of_true ?_ (Nat.succ_ne_zero levels)
    rw [redacted, redactWithin, Text.truncate, whole, String.ofList_toList]

theorem redactField_again_iff {levels : Nat} {field : String × Json}
    (deeper : redactor.redactWithin levels (redactor.redactWithin levels field.2) =
        redactor.redactWithin levels field.2 ↔ redactor.unsettled levels field.2 = false) :
    redactor.redactField levels (redactor.redactField levels field) =
        redactor.redactField levels field ↔
      (if redactor.hides field.1 then
        decide (levels = 0) && !redactor.hides (redactor.cut field.1)
      else redactor.unsettled levels field.2) = false := by
  unfold redactField
  dsimp only
  rw [Prod.mk.injEq, and_iff_right (cut_cut field.1)]
  cases hidden : redactor.hides field.1 with
  | false =>
    have shows : redactor.hides (redactor.cut field.1) = false := by
      rw [← Bool.not_eq_true]
      intro seen
      rw [redactor.hides_of_cut field.1 seen] at hidden
      cases hidden
    rw [shows]
    exact deeper
  | true =>
    cases redactor.hides (redactor.cut field.1) with
    | true => simp
    | false => simpa using redactWithin_redacted levels

/-- **Redacting twice** is redacting once, unless a hidden key is lost at the last level. -/
theorem redactWithin_again_iff : ∀ (levels : Nat) (value : Json),
    redactor.redactWithin levels (redactor.redactWithin levels value) =
        redactor.redactWithin levels value ↔ redactor.unsettled levels value = false := by
  intro levels
  induction levels with
  | zero => exact fun _ => iff_of_true rfl rfl
  | succ levels ih =>
    intro value
    cases value with
    | obj fields =>
      rw [redactWithin_obj_again, unsettled, List.any_eq_false]
      refine forall₂_congr fun field _ => ?_
      rw [redactField_again_iff (ih field.2), Bool.not_eq_true]
    | arr items =>
      rw [redactWithin_arr_again, unsettled, List.any_eq_false]
      refine forall₂_congr fun item _ => ?_
      rw [ih item, Bool.not_eq_true]
    | str text =>
      refine iff_of_true ?_ rfl
      simp [redactWithin, Text.truncate, List.take_take]
    | _ => exact iff_of_true rfl rfl

end Again

/-! ## Bounds -/

theorem length_truncate_le (count : Nat) (text : String) :
    (Text.truncate count text).length ≤ count := by
  rw [Text.truncate, String.length_ofList]
  exact List.length_take_le ..

theorem within_redacted (levels : Nat) : redactor.Within levels redacted := by
  have short : "[REDACTED]".length ≤ redactor.letters :=
    (by decide : _ ≤ 11).trans redactor.markers
  cases levels <;> exact short

/-- **A redaction is within its bounds.** -/
theorem within_redactWithin : ∀ (levels : Nat) (value : Json),
    redactor.Within levels (redactor.redactWithin levels value) := by
  intro levels
  induction levels with
  | zero => exact fun _ => redactor.markers
  | succ levels ih =>
    intro value
    cases value with
    | obj fields =>
      rw [redactWithin_obj]
      refine ⟨?_, fun entry member => ?_⟩
      · refine (Dict.length_ofEntries_le _).trans ?_
        rw [List.length_map, List.length_take]
        exact Nat.min_le_left ..
      · obtain ⟨field, -, rfl⟩ := mem_redactFields_iff.mp member
        refine ⟨length_truncate_le .., ?_⟩
        unfold redactField
        dsimp only
        split
        · exact within_redacted levels
        · exact ih field.2
    | arr items =>
      rw [redactWithin_arr]
      refine ⟨?_, fun item member => ?_⟩
      · rw [List.length_map, List.length_take]
        exact Nat.min_le_left ..
      · obtain ⟨first, -, rfl⟩ := List.mem_map.mp member
        exact ih first
    | str text => exact length_truncate_le ..
    | _ => trivial

/-! ## Redactors that see every key alike -/

theorem leaks_of_hides {sensitive : String → Bool}
    (same : ∀ key, sensitive key = redactor.hides key) :
    ∀ (levels : Nat) (value : Json), redactor.leaks sensitive levels value = false := by
  intro levels
  induction levels with
  | zero => exact fun _ => rfl
  | succ levels ih =>
    intro value
    cases value with
    | obj fields =>
      refine List.any_eq_false.mpr fun field _ => ?_
      rw [ih, same, Bool.or_false]
      cases redactor.hides field.1 <;> simp
    | arr items =>
      refine List.any_eq_false.mpr fun item _ => ?_
      rw [ih]
      exact Bool.false_ne_true
    | _ => rfl

theorem unsettled_of_cut (same : ∀ key, redactor.hides (redactor.cut key) = redactor.hides key) :
    ∀ (levels : Nat) (value : Json), redactor.unsettled levels value = false := by
  intro levels
  induction levels with
  | zero => exact fun _ => rfl
  | succ levels ih =>
    intro value
    cases value with
    | obj fields =>
      refine List.any_eq_false.mpr fun field _ => ?_
      rw [ih, same]
      cases redactor.hides field.1 <;> simp
    | arr items =>
      refine List.any_eq_false.mpr fun item _ => ?_
      rw [ih]
      exact Bool.false_ne_true
    | _ => rfl

end Redactor

end ThreatScope.Library
