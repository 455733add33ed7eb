import ThreatScope.AccessControl.AuditLog
import ThreatScope.Integrations.Inbound
import ThreatScope.Library.Redaction

/-!
# What redaction hides

Two functions take secrets out of a value before it is kept, that of the audit log
(`access_control/redaction.py`) and that of the integrations (`integrations/security.py`).
Both are redactors and cut keys to a hundred letters. The first one looks for its words in
what is left of a key, and so shows what is below a key that has the word later. The second
one looks at the whole key, and redacting twice can be something else.
-/

set_option autoImplicit false

namespace ThreatScope.Integrations

open Library

/-! ## The two functions as redactors -/

theorem truncate_truncate (count : Nat) (text : String) :
    Text.truncate count (Text.truncate count text) = Text.truncate count text := by
  unfold Text.truncate
  rw [String.toList_ofList, List.take_take, Nat.min_self]

/-- A key with one of `SECRET_KEYS`. -/
def isSecret (py : Interpreter) (key : String) : Bool :=
  secretKeys.any fun part => Text.contains (py.casefold key) part

theorem isSecret_of_truncate {py : Interpreter} {count : Nat} {key : String}
    (seen : isSecret py (Text.truncate count key) = true) : isSecret py key = true := by
  obtain ⟨part, member, inside⟩ := List.any_eq_true.mp seen
  refine List.any_eq_true.mpr ⟨part, member, Text.contains_iff.mpr ?_⟩
  have found := Text.contains_iff.mp inside
  unfold Interpreter.casefold Text.casefold Text.truncate at found
  unfold Interpreter.casefold Text.casefold
  rw [String.toList_ofList, String.toList_ofList] at found
  rw [String.toList_ofList]
  refine found.trans (List.IsPrefix.isInfix ?_)
  obtain ⟨rest, whole⟩ := List.take_prefix count key.toList
  exact ⟨rest.flatMap _, by rw [← List.flatMap_append, whole]⟩

/-- `access_control.redaction.redact` looks for its words in the first hundred letters. -/
def accessRedactor (py : Interpreter) : Redactor where
  entries := 50
  keyLetters := 100
  letters := 500
  hides key := AccessControl.isSensitive py (Text.truncate 100 key)
  markers := by decide
  hides_of_cut key := by rw [truncate_truncate]; exact id

/-- `integrations.security.redact` looks for its words in the whole key. -/
def integrationRedactor (py : Interpreter) : Redactor where
  entries := 100
  keyLetters := 100
  letters := 4000
  hides := isSecret py
  markers := by decide
  hides_of_cut _ := isSecret_of_truncate

theorem accessRedactor_hides (py : Interpreter) (key : String) :
    (accessRedactor py).hides key =
      AccessControl.isSensitive py (Text.truncate 100 key) := by
  simp only [accessRedactor]

theorem accessRedactor_redactWithin (py : Interpreter) : ∀ (levels : Nat) (value : Json),
    AccessControl.redactWithin py levels value =
      (accessRedactor py).redactWithin levels value := by
  have entries : (accessRedactor py).entries = 50 := rfl
  have letters : (accessRedactor py).letters = 500 := rfl
  have cut (key : String) : (accessRedactor py).cut key = Text.truncate 100 key := rfl
  intro levels
  induction levels with
  | zero => exact fun _ => rfl
  | succ levels ih =>
    intro value
    cases value with
    | obj fields =>
      rw [AccessControl.redactWithin, Redactor.redactWithin, Dict.ofEntries, List.foldl_map,
        entries]
      simp only [ih, cut, accessRedactor_hides]
      rfl
    | arr items => rw [AccessControl.redactWithin, Redactor.redactWithin, funext ih, entries]
    | str text => rw [AccessControl.redactWithin, Redactor.redactWithin, letters]
    | _ => rfl

theorem integrationRedactor_hides (py : Interpreter) :
    (integrationRedactor py).hides = isSecret py := by
  simp only [integrationRedactor]

theorem integrationRedactor_redactWithin (py : Interpreter) : ∀ (levels : Nat) (value : Json),
    redactWithin py levels value = (integrationRedactor py).redactWithin levels value := by
  have entries : (integrationRedactor py).entries = 100 := rfl
  have letters : (integrationRedactor py).letters = 4000 := rfl
  have cut (key : String) : (integrationRedactor py).cut key = Text.truncate 100 key := rfl
  intro levels
  induction levels with
  | zero => exact fun _ => rfl
  | succ levels ih =>
    intro value
    cases value with
    | obj fields =>
      rw [redactWithin, Redactor.redactWithin, Dict.ofEntries, List.foldl_map, entries]
      simp only [ih, cut, integrationRedactor_hides, isSecret]
      rfl
    | arr items => rw [redactWithin, Redactor.redactWithin, funext ih, entries]
    | str text => rw [redactWithin, Redactor.redactWithin, letters]
    | _ => rfl

/-! ## Hiding secrets -/

/-- A function hides the secrets of a value, settles it and bounds it. -/
structure HidesSecrets (redact : Json → Json) (sensitive : String → Bool) (bounds : Redactor)
    (levels : Nat) (value : Json) : Prop where
  /-- A value with other secrets is redacted alike. -/
  secret : ∀ other, Json.SameButSecrets sensitive value other → redact value = redact other
  again : redact (redact value) = redact value
  bounded : bounds.Within levels (redact value)

/-- **Redaction hides secrets.** The function of the audit log hides the secrets of a value if
and only if no sensitive key is reached whose first hundred letters are not sensitive, above
the last level. That of the integrations hides every secret, and redacting twice is redacting
once if and only if no such key is reached at the last level. -/
theorem redact_hides_secrets_iff (py : Interpreter) (value : Json) :
    (HidesSecrets (AccessControl.redact py) (AccessControl.isSensitive py)
        (accessRedactor py) 7 value ↔
      (accessRedactor py).leaks (AccessControl.isSensitive py) 7 value = false) ∧
    (HidesSecrets (redact py) (isSecret py) (integrationRedactor py) 9 value ↔
      (integrationRedactor py).unsettled 9 value = false) := by
  have access : AccessControl.redact py = (accessRedactor py).redactWithin 7 :=
    funext (accessRedactor_redactWithin py 7)
  have integration : redact py = (integrationRedactor py).redactWithin 9 :=
    funext (integrationRedactor_redactWithin py 9)
  rw [access, integration]
  constructor
  · refine ⟨fun hides => (Redactor.redactWithin_same_iff 7 value).mp hides.secret, fun tight =>
      ⟨(Redactor.redactWithin_same_iff 7 value).mpr tight, ?_,
        Redactor.within_redactWithin 7 value⟩⟩
    refine (Redactor.redactWithin_again_iff 7 value).mpr (Redactor.unsettled_of_cut ?_ 7 value)
    intro key
    rw [accessRedactor_hides, accessRedactor_hides, Redactor.cut]
    exact congrArg (AccessControl.isSensitive py) (truncate_truncate 100 key)
  · refine ⟨fun hides => (Redactor.redactWithin_again_iff 9 value).mp hides.again, fun settled =>
      ⟨?_, (Redactor.redactWithin_again_iff 9 value).mpr settled,
        Redactor.within_redactWithin 9 value⟩⟩
    exact (Redactor.redactWithin_same_iff 9 value).mpr
      (Redactor.leaks_of_hides (fun key => by rw [integrationRedactor_hides]) 9 value)

/-! ## A key that is too long -/

/-- A runtime for ASCII. -/
def asciiPython : Interpreter where
  foldTable character := [character]
  parseInt _ := none
  repr _ := ""
  floatText _ := ""

/-- A hundred letters without a word. -/
def longFront : List Char := List.replicate 100 'a'

/-- A key whose word comes after these letters. -/
def longKey : String := String.ofList (longFront ++ "password".toList)

/-- A value below so many dictionaries. -/
def nested (value : Json) : Nat → Json
  | 0 => value
  | depth + 1 => .obj [("a", nested value depth)]

section Single

variable {redactor : Redactor} (enough : 0 < redactor.entries)
include enough

theorem shown_single (field : String × Json) : redactor.shown [field] = [field] := by
  unfold Redactor.shown
  rw [List.take_of_length_le (show [field].length ≤ redactor.entries from enough)]
  rfl

theorem redactWithin_single (levels : Nat) (field : String × Json) :
    redactor.redactWithin (levels + 1) (.obj [field]) =
      .obj [redactor.redactField levels field] := by
  rw [Redactor.redactWithin_obj,
    List.take_of_length_le (show [field].length ≤ redactor.entries from enough)]
  rfl

theorem unsettled_single (levels : Nat) (key : String) (value : Json) :
    redactor.unsettled (levels + 1) (.obj [(key, value)]) =
      if redactor.hides key then decide (levels = 0) && !redactor.hides (redactor.cut key)
      else redactor.unsettled levels value := by
  rw [Redactor.unsettled, shown_single enough, List.any_cons, List.any_nil, Bool.or_false]

theorem unsettled_nested (shows : redactor.hides "a" = false) (levels : Nat) (value : Json)
    (depth : Nat) :
    redactor.unsettled (levels + depth) (nested value depth) = redactor.unsettled levels value := by
  induction depth with
  | zero => rfl
  | succ depth ih =>
    rw [nested, ← Nat.add_assoc, unsettled_single enough, shows, if_neg Bool.false_ne_true, ih]

end Single

theorem truncate_longKey : Text.truncate 100 longKey = String.ofList longFront := by
  unfold Text.truncate longKey
  rw [String.toList_ofList, List.take_left' (by rfl)]

theorem any_contains_longFront {words : List String}
    (others : (words.all fun word => word.toList.any fun letter => letter != 'a') = true) :
    (words.any fun word => Text.contains (String.ofList longFront) word) = false := by
  refine List.any_eq_false.mpr fun word member inside => ?_
  obtain ⟨letter, occurs, differs⟩ := List.any_eq_true.mp (List.all_eq_true.mp others word member)
  rw [Text.contains_iff, String.toList_ofList] at inside
  exact bne_iff_ne.mp differs (List.eq_of_mem_replicate (inside.subset occurs))

theorem flatMap_longFront {change : Char → List Char} (kept : change 'a' = ['a']) :
    longFront.flatMap change = longFront := by
  unfold longFront
  generalize 100 = count
  induction count with
  | zero => rfl
  | succ count ih => rw [List.replicate_succ, List.flatMap_cons, kept, ih, List.singleton_append]

theorem foldChar_a : Text.foldChar asciiPython.foldTable 'a' = ['a'] := by decide

theorem casefold_longFront :
    asciiPython.casefold (String.ofList longFront) = String.ofList longFront := by
  unfold Interpreter.casefold Text.casefold
  rw [String.toList_ofList, flatMap_longFront foldChar_a]

theorem isSensitive_longFront :
    AccessControl.isSensitive asciiPython (String.ofList longFront) = false := by
  have plain : Text.replaceChar '-' (some '_') (String.ofList longFront) =
      String.ofList longFront := by
    unfold Text.replaceChar
    rw [String.toList_ofList, flatMap_longFront (by decide)]
  unfold AccessControl.isSensitive
  rw [casefold_longFront, plain]
  exact any_contains_longFront (by decide +kernel)

theorem isSecret_longFront : isSecret asciiPython (String.ofList longFront) = false := by
  unfold isSecret
  rw [casefold_longFront]
  exact any_contains_longFront (by decide +kernel)

theorem casefold_longKey : asciiPython.casefold longKey = longKey := by
  unfold Interpreter.casefold Text.casefold longKey
  rw [String.toList_ofList, List.flatMap_append, flatMap_longFront foldChar_a]
  exact congrArg (fun word => String.ofList (longFront ++ word)) (by decide)

theorem contains_longKey : Text.contains longKey "password" = true := by
  have letters : longKey.toList = longFront ++ "password".toList := String.toList_ofList
  rw [Text.contains_iff, letters]
  exact (List.suffix_append _ _).isInfix

theorem isSensitive_longKey : AccessControl.isSensitive asciiPython longKey = true := by
  have plain : Text.replaceChar '-' (some '_') longKey = longKey := by
    unfold Text.replaceChar longKey
    rw [String.toList_ofList, List.flatMap_append, flatMap_longFront (by decide)]
    exact congrArg (fun word => String.ofList (longFront ++ word)) (by decide)
  unfold AccessControl.isSensitive
  rw [casefold_longKey, plain]
  exact List.any_eq_true.mpr ⟨"password", by decide, contains_longKey⟩

theorem isSecret_longKey : isSecret asciiPython longKey = true :=
  List.any_eq_true.mpr ⟨"password", by decide, by rw [casefold_longKey, contains_longKey]⟩

/-- **A sensitive key that is too long** shows its secret in the audit log. In the integrations
its marker is taken for what is below the last level, when it is redacted again. -/
theorem long_key_shows_secret :
    AccessControl.isSensitive asciiPython longKey = true ∧
      AccessControl.redact asciiPython (.obj [(longKey, .str "hunter2")]) =
        .obj [(String.ofList longFront, .str "hunter2")] ∧
      ¬ HidesSecrets (AccessControl.redact asciiPython) (AccessControl.isSensitive asciiPython)
        (accessRedactor asciiPython) 7 (.obj [(longKey, .str "hunter2")]) ∧
      ¬ HidesSecrets (redact asciiPython) (isSecret asciiPython) (integrationRedactor asciiPython) 9
        (nested (.obj [(longKey, .str "hunter2")]) 8) := by
  have shown (text : String) : AccessControl.redact asciiPython (.obj [(longKey, .str text)]) =
      .obj [(String.ofList longFront, .str (Text.truncate 500 text))] := by
    unfold AccessControl.redact
    rw [accessRedactor_redactWithin, redactWithin_single (by decide), Redactor.redactField,
      accessRedactor_hides, truncate_longKey, isSensitive_longFront, if_neg Bool.false_ne_true]
    exact congrArg (fun key => Json.obj [(key, _)]) truncate_longKey
  have first := shown "hunter2"
  have second := shown "swordfish"
  refine ⟨isSensitive_longKey, first, fun hides => ?_, fun hides => ?_⟩
  · have alike : Json.SameButSecrets (AccessControl.isSensitive asciiPython)
        (.obj [(longKey, .str "hunter2")]) (.obj [(longKey, .str "swordfish")]) := by
      refine Json.sameButSecrets_obj_iff.mpr ⟨[(longKey, .str "swordfish")], rfl, .cons ?_ .nil⟩
      exact ⟨rfl, .inl isSensitive_longKey⟩
    have same := hides.secret _ alike
    rw [first, second] at same
    have texts := Json.str.inj (Prod.mk.inj (List.cons.inj (Json.obj.inj same)).1).2
    revert texts
    decide +kernel
  · have lost : (integrationRedactor asciiPython).unsettled 9
        (nested (.obj [(longKey, .str "hunter2")]) 8) = true := by
      have cut : (integrationRedactor asciiPython).cut longKey = String.ofList longFront :=
        truncate_longKey
      have few : 0 < (integrationRedactor asciiPython).entries := by decide
      have plain : (integrationRedactor asciiPython).hides "a" = false := by
        rw [integrationRedactor_hides]
        decide +kernel
      refine (unsettled_nested few plain 1 _ 8).trans ?_
      rw [unsettled_single few, cut, integrationRedactor_hides, isSecret_longKey, if_pos rfl,
        isSecret_longFront]
      rfl
    have settled := hides.again
    unfold redact at settled
    rw [integrationRedactor_redactWithin, integrationRedactor_redactWithin,
      Redactor.redactWithin_again_iff, lost] at settled
    cases settled

end ThreatScope.Integrations
