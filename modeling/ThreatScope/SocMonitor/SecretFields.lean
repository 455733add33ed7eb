import ThreatScope.SocMonitor.LineIsolation

/-!
# Secret fields in stored events

The value under a sensitive key is gone before anything is read from a record, so that every
column made from the record is the same whatever the secret is. The preview is made from the
unparsed line, where the two patterns have to find the secret again: it is the same for lines
that are alike outside of what the patterns find (`secret_fields_hidden`). They do not find a
secret behind a quoted key or a key with a hyphen.
-/

set_option autoImplicit false

namespace ThreatScope.SocMonitor

open Library AccessControl

/-! ## Records without their secrets -/

section Masks

variable (env : TextRuntime)

mutual

/-- A value without what stands under its sensitive keys. -/
def mask : Json → Json
  | .obj fields => .obj (maskFields fields)
  | .arr items => .arr (maskItems items)
  | value => value

/-- The items of a list. -/
def maskItems : List Json → List Json
  | [] => []
  | item :: rest => mask item :: maskItems rest

/-- The fields of a dictionary. -/
def maskFields : List (String × Json) → List (String × Json)
  | [] => []
  | (key, value) :: rest =>
    (key, if isSensitiveKey env key then .null else mask value) :: maskFields rest

end

mutual

theorem redact_mask : ∀ value : Json, redact env (mask env value) = redact env value
  | .obj fields => by rw [mask, redact, redact, redactFields_maskFields fields]
  | .arr items => by rw [mask, redact, redact, redactItems_maskItems items]
  | .str _ | .null | .bool _ | .int _ | .float _ => by simp only [mask]

theorem redactItems_maskItems : ∀ items : List Json,
    redactItems env (maskItems env items) = redactItems env items
  | [] => rfl
  | item :: rest => by
    rw [maskItems, redactItems, redactItems, redact_mask item, redactItems_maskItems rest]

theorem redactFields_maskFields : ∀ fields : List (String × Json),
    redactFields env (maskFields env fields) = redactFields env fields
  | [] => rfl
  | (key, value) :: rest => by
    rw [maskFields, redactFields, redactFields, redactFields_maskFields rest]
    split
    · rfl
    · rw [redact_mask value]

end

/-- **Redaction sees no secret**: records that differ in the values under sensitive keys alone
are redacted to the same record. -/
theorem redactFields_congr {one other : Dict} (same : maskFields env one = maskFields env other) :
    redactFields env one = redactFields env other := by
  rw [← redactFields_maskFields, same, redactFields_maskFields]

end Masks

/-! ## Texts without their secrets -/

section Texts

variable (env : TextRuntime)

/-- What a pattern finds where a text begins, after a character: a word and the rest. -/
def found (match? : List Char → Option (List Char × List Char)) (before : Option Char)
    (text : List Char) : Option (List Char × List Char) :=
  if isBoundary env before text.head? then match? text else none

/-- The last character of a text before its rest. -/
def lastBefore (text rest : List Char) : Option Char :=
  (text.take (text.length - rest.length)).getLast?

/-- Two texts, each after a character, are alike outside of what a pattern finds, and what it
finds begins with the same words. -/
inductive Alike (match? : List Char → Option (List Char × List Char)) :
    Option Char → List Char → Option Char → List Char → Prop where
  | done {before otherBefore} : Alike match? before [] otherBefore []
  | plain {before otherBefore c text otherText}
    (one : found env match? before (c :: text) = none)
    (other : found env match? otherBefore (c :: otherText) = none)
    (alike : Alike match? (some c) text (some c) otherText) :
    Alike match? before (c :: text) otherBefore (c :: otherText)
  | secret {before otherBefore text otherText word rest otherRest}
    (one : found env match? before text = some (word, rest))
    (other : found env match? otherBefore otherText = some (word, otherRest))
    (alike : Alike match? (lastBefore text rest) rest (lastBefore otherText otherRest) otherRest) :
    Alike match? before text otherBefore otherText

variable {env}

theorem length_dropWord {word text rest : List Char}
    (dropped : dropWord env word text = some rest) :
    rest.length + word.length = text.length := by
  induction word generalizing text with
  | nil =>
    cases dropped
    rfl
  | cons letter word ih =>
    cases text with
    | nil => cases dropped
    | cons c text =>
      rw [dropWord] at dropped
      split at dropped
      · rw [List.length_cons, List.length_cons, ← ih dropped, Nat.add_assoc]
      · cases dropped

theorem length_dropValue {text rest : List Char} (dropped : dropValue text = some rest) :
    rest.length ≤ text.length := by
  cases text with
  | nil => cases dropped
  | cons c text =>
    rw [dropValue, Option.or_eq_some_iff] at dropped
    rcases dropped with quoted | ⟨-, bare⟩
    · split at quoted
      · have shorter := (List.dropWhile_suffix (l := text) (· != c)).length_le
        split at quoted
        · cases quoted
        · rename_i split
          cases quoted
          rw [split, List.length_cons] at shorter
          rw [List.length_cons]
          omega
      · cases quoted
    · dsimp only at bare
      split at bare
      · cases bare
        exact (List.dropWhile_suffix _).length_le
      · cases bare

/-- What is found is consumed. -/
theorem length_matchSecret {text word rest : List Char}
    (secret : matchSecret env text = some (word, rest)) : rest.length < text.length := by
  obtain ⟨key, known, secret⟩ := List.exists_of_findSome?_eq_some secret
  obtain ⟨after, dropped, secret⟩ := Option.bind_eq_some_iff.mp secret
  obtain ⟨-, -, secret⟩ := Option.bind_eq_some_iff.mp secret
  have first := length_dropWord dropped
  have spaces := (List.dropWhile_suffix (l := after) Text.isSpace).length_le
  have value : ∀ sign tail, after.dropWhile Text.isSpace = sign :: tail →
      (do let remaining ← dropValue (tail.dropWhile Text.isSpace)
          return (text.take key.length, remaining)) = some (word, rest) →
      rest.length < text.length := by
    intro sign tail split reads
    obtain ⟨remaining, dropped, same⟩ := Option.bind_eq_some_iff.mp reads
    cases same
    have bound := length_dropValue dropped
    have blanks := (List.dropWhile_suffix (l := tail) Text.isSpace).length_le
    rw [split, List.length_cons] at spaces
    omega
  split at secret
  · exact value _ _ ‹_› secret
  · exact value _ _ ‹_› secret
  · cases secret

/-- **Alike texts** are the same once what a pattern finds is masked. -/
theorem substitute_congr {match? : List Char → Option (List Char × List Char)}
    (consumes : ∀ {text word rest}, match? text = some (word, rest) → rest.length < text.length)
    {before otherBefore : Option Char} {one other : List Char}
    (alike : Alike env match? before one otherBefore other) (fuel otherFuel : Nat)
    (enough : one.length < fuel) (otherEnough : other.length < otherFuel) :
    substitute env match? fuel before one =
      substitute env match? otherFuel otherBefore other := by
  induction alike generalizing fuel otherFuel with
  | done =>
    obtain ⟨fuel, rfl⟩ := Nat.exists_eq_add_of_lt enough
    obtain ⟨otherFuel, rfl⟩ := Nat.exists_eq_add_of_lt otherEnough
    rfl
  | @plain before otherBefore c text otherText first second _ ih =>
    obtain ⟨fuel, rfl⟩ := Nat.exists_eq_succ_of_ne_zero (Nat.ne_zero_of_lt enough)
    obtain ⟨otherFuel, rfl⟩ := Nat.exists_eq_succ_of_ne_zero (Nat.ne_zero_of_lt otherEnough)
    rw [found, List.head?_cons] at first second
    rw [substitute, substitute, first, second]
    exact congrArg (List.cons c)
      (ih fuel otherFuel (Nat.lt_of_succ_lt_succ enough) (Nat.lt_of_succ_lt_succ otherEnough))
  | @secret before otherBefore text otherText word rest otherRest first second _ ih =>
    obtain ⟨fuel, rfl⟩ := Nat.exists_eq_succ_of_ne_zero (Nat.ne_zero_of_lt enough)
    obtain ⟨otherFuel, rfl⟩ := Nat.exists_eq_succ_of_ne_zero (Nat.ne_zero_of_lt otherEnough)
    have shorter : ∀ {before text rest}, found env match? before text = some (word, rest) →
        rest.length < text.length := by
      intro before text rest here
      rw [found] at here
      split at here
      · exact consumes here
      · cases here
    have oneShorter := shorter first
    have otherShorter := shorter second
    cases text with
    | nil => cases oneShorter
    | cons c text =>
      cases otherText with
      | nil => cases otherShorter
      | cons d otherText =>
        rw [found, List.head?_cons] at first second
        rw [substitute, substitute, first, second]
        exact congrArg (fun tail => word ++ "=[REDACTED]".toList ++ tail)
          (ih fuel otherFuel (by omega) (by omega))

/-- A line once the tokens behind `Bearer` and `Basic` are masked. -/
def maskSchemes (env : TextRuntime) (line : String) : List Char :=
  substitute env (matchScheme env) (line.length + 1) none line.toList

/-- Two lines are alike outside of what the patterns find: once the tokens of schemes are
masked, they are the same text but for the separators and values behind the words of secrets. -/
def AlikeLines (env : TextRuntime) (one other : String) : Prop :=
  Alike env (matchSecret env) none (maskSchemes env one) none
    (maskSchemes env other)

theorem redactTextWithin_congr {limit : Nat} {one other : String}
    (alike : AlikeLines env one other) :
    redactTextWithin env limit one = redactTextWithin env limit other := by
  have texts : redactText env one = redactText env other :=
    congrArg String.ofList (substitute_congr length_matchSecret alike _ _ (Nat.lt_succ_self _)
      (Nat.lt_succ_self _))
  rw [redactTextWithin, texts, redactTextWithin]

end Texts

/-! ## Columns -/

variable {env : ParserRuntime}

theorem normalizeEvent_congr {one other : Dict}
    (same : maskFields env.toTextRuntime one = maskFields env.toTextRuntime other)
    (raw otherRaw : String) (fallback : Instant) :
    normalizeEvent env.toLogRuntime other otherRaw fallback =
      (normalizeEvent env.toLogRuntime one raw fallback).map fun columns =>
        { columns with
          rawPreviewRedacted := redactTextWithin env.toTextRuntime 2000 otherRaw } := by
  unfold normalizeEvent
  rw [redactFields_congr _ same, Option.map_map]
  generalize redactTextWithin env.toTextRuntime 2000 raw = shown
  generalize redactTextWithin env.toTextRuntime 2000 otherRaw = otherShown
  rfl

/-! ## Stored rows -/

/-- A line of a text parses to a record. -/
def ParsesTo (env : ParserRuntime) (parser : ParserType) (text : String) (data : Dict)
    (raw : String) : Prop :=
  ∃ rows, parseContent env parser text = some rows ∧ ⟨some data, raw, none⟩ ∈ rows

/-- The row that `insert_event` adds. -/
def addedRow (session : ImportSession) (after : ImportSession × Inserted) : Option LogEvent :=
  if after.2 = .added then after.1.events.get? session.events.nextKey else none

theorem addedRow_of_added {sourceId : Nat} {importId : Option Nat} {fallback : Instant}
    {session : ImportSession} {data : Dict} {raw : String}
    (added : (insertEvent env sourceId importId fallback session data raw).2 = .added) :
    ∃ columns, normalizeEvent env.toLogRuntime data raw fallback = some columns ∧
      session.active = true ∧
      (session.events.rows.any fun row =>
        row.2.columns.rawEventHash == columns.rawEventHash) = false ∧
      columns.binds = true := by
  unfold insertEvent at added
  split at added
  · cases added
  · rename_i columns made
    cases active : session.active with
    | false =>
      rw [active] at added
      cases added
    | true =>
      rw [active] at added
      split at added
      · cases added
      · split at added
        · cases added
        · rename_i fresh
          split at added
          · rename_i binds
            exact ⟨columns, made, rfl, Bool.eq_false_iff.mpr fresh, binds⟩
          · cases added

theorem addedRow_eq {sourceId : Nat} {importId : Option Nat} {fallback : Instant}
    {session : ImportSession} {data : Dict} {raw : String} {columns : NormalizedEvent}
    (made : normalizeEvent env.toLogRuntime data raw fallback = some columns)
    (active : session.active = true)
    (fresh : (session.events.rows.any fun row =>
      row.2.columns.rawEventHash == columns.rawEventHash) = false)
    (binds : columns.binds = true) :
    addedRow session (insertEvent env sourceId importId fallback session data raw) =
      some ⟨sourceId, importId, columns⟩ := by
  unfold insertEvent
  rw [made]
  dsimp only
  rw [active, fresh, binds]
  exact Table.get?_insert_nextKey _ _

/-- **Secret fields.** Of two lines with records that differ in the values under sensitive keys
alone, `insert_event` stores both or none. The rows are equal where the lines are alike outside
of what the patterns find, and differ in no column but the preview anywhere. -/
theorem secret_fields_hidden (env : ParserRuntime) (data otherData : Dict) (raw otherRaw : String)
    (same : maskFields env.toTextRuntime data = maskFields env.toTextRuntime otherData)
    (sourceId : Nat) (importId : Option Nat) (fallback : Instant) (session : ImportSession)
    (added : (insertEvent env sourceId importId fallback session data raw).2 = .added) :
    (addedRow session (insertEvent env sourceId importId fallback session otherData
        otherRaw)).isSome = true ∧
      (AlikeLines env.toTextRuntime raw otherRaw →
        addedRow session (insertEvent env sourceId importId fallback session data raw) =
          addedRow session (insertEvent env sourceId importId fallback session otherData
            otherRaw)) ∧
      (addedRow session (insertEvent env sourceId importId fallback session data raw) =
          addedRow session (insertEvent env sourceId importId fallback session otherData
            otherRaw) ↔
        redactTextWithin env.toTextRuntime 2000 raw =
          redactTextWithin env.toTextRuntime 2000 otherRaw) := by
  obtain ⟨columns, made, active, fresh, binds⟩ := addedRow_of_added added
  have otherMade := normalizeEvent_congr same raw otherRaw fallback
  rw [made, Option.map_some] at otherMade
  have preview : columns.rawPreviewRedacted = redactTextWithin env.toTextRuntime 2000 raw := by
    unfold normalizeEvent at made
    generalize redactTextWithin env.toTextRuntime 2000 raw = shown at made ⊢
    obtain ⟨_, -, rfl⟩ := Option.map_eq_some_iff.mp made
    rfl
  have shown : AlikeLines env.toTextRuntime raw otherRaw →
      columns.rawPreviewRedacted = redactTextWithin env.toTextRuntime 2000 otherRaw :=
    fun alike => preview.trans (redactTextWithin_congr alike)
  generalize redactTextWithin env.toTextRuntime 2000 otherRaw = otherPreview
    at otherMade shown ⊢
  rw [addedRow_eq made active fresh binds, addedRow_eq otherMade active fresh binds, ← preview]
  have equal_iff : some (⟨sourceId, importId, columns⟩ : LogEvent) =
      some ⟨sourceId, importId, { columns with rawPreviewRedacted := otherPreview }⟩ ↔
        columns.rawPreviewRedacted = otherPreview := by
    rw [Option.some.injEq, LogEvent.mk.injEq]
    constructor
    · rintro ⟨-, -, equal⟩
      exact congrArg NormalizedEvent.rawPreviewRedacted equal
    · intro equal
      refine ⟨rfl, rfl, ?_⟩
      rw [← equal]
  exact ⟨rfl, fun alike => equal_iff.mpr (shown alike), equal_iff⟩

/-! ## Keys that the patterns do not know -/

theorem parsesTo_plain (key value : String) (text : String)
    (split : plainLogs.splitLines text = [text]) (full : Text.strip text ≠ "")
    (words : Text.words text = ["user=bob", key ++ "=" ++ value])
    (token : splitToken (key ++ "=" ++ value) = some (key, value)) (apart : "user" ≠ key) :
    ParsesTo plainLogs .keyValue text [("user", .str "bob"), (key, .str value)] text := by
  refine ⟨[⟨some [("user", .str "bob"), (key, .str value)], text, none⟩], ?_,
    List.mem_singleton_self _⟩
  have lines : linesOf plainLogs text = [text] := by
    unfold linesOf
    rw [split, List.filter_cons_of_pos (by simpa using full), List.filter_nil]
  have shlex : plainLogs.shlexSplit text = .ok ["user=bob", key ++ "=" ++ value] :=
    congrArg Except.ok words
  have user : splitToken "user=bob" = some ("user", "bob") := by decide +kernel
  unfold parseContent
  rw [if_neg (by decide), lines, List.mapM_cons, List.mapM_nil]
  unfold parseLine
  dsimp only
  unfold parseKeyValueLine
  rw [shlex]
  dsimp only
  rw [List.filterMap_cons_some user, List.filterMap_cons_some token, List.filterMap_nil,
    List.foldl_cons, List.foldl_cons, List.foldl_nil]
  unfold Dict.set
  simp [apart]

theorem maskFields_secret {env : TextRuntime} (fields : Dict) {key : String}
    (sensitive : isSensitiveKey env key = true) (first second : Json) :
    maskFields env (fields ++ [(key, first)]) =
      maskFields env (fields ++ [(key, second)]) := by
  induction fields with
  | nil => simp only [List.nil_append, maskFields, if_pos sensitive]
  | cons field rest ih =>
    rw [List.cons_append, List.cons_append, maskFields, maskFields, ih]

def emptySession : ImportSession := ⟨Table.empty, true⟩

/-- The row of a line with a user and one more field. -/
def plainRow (key value : String) : Option LogEvent :=
  addedRow emptySession (insertEvent plainLogs 1 (some 1) 0 emptySession
    [("user", .str "bob"), (key, .str value)] ("user=bob " ++ key ++ "=" ++ value))

/-- The lines differ behind a word that the second pattern knows. -/
theorem alikeLines_password :
    AlikeLines plainLogs.toTextRuntime "user=bob password=alpha" "user=bob password=beta" := by
  have first : maskSchemes plainLogs.toTextRuntime "user=bob password=alpha" =
      ['u', 's', 'e', 'r', '=', 'b', 'o', 'b', ' '] ++ "password=alpha".toList := by decide +kernel
  have second : maskSchemes plainLogs.toTextRuntime "user=bob password=beta" =
      ['u', 's', 'e', 'r', '=', 'b', 'o', 'b', ' '] ++ "password=beta".toList := by decide +kernel
  rw [AlikeLines, first, second]
  simp only [List.cons_append, List.nil_append]
  iterate 9 refine .plain (by decide +kernel) (by decide +kernel) ?_
  exact @Alike.secret _ _ _ _ _ _ "password".toList [] [] (by decide +kernel) (by decide +kernel)
    .done

theorem secret_fields_hidden_password :
    (plainRow "password" "beta").isSome = true ∧
      plainRow "password" "alpha" = plainRow "password" "beta" := by
  obtain ⟨stored, equal, -⟩ := secret_fields_hidden plainLogs
    [("user", .str "bob"), ("password", .str "alpha")]
    [("user", .str "bob"), ("password", .str "beta")] "user=bob password=alpha"
    "user=bob password=beta"
    (maskFields_secret [("user", .str "bob")] (by decide +kernel) _ _)
    1 (some 1) 0 emptySession (by decide +kernel)
  exact ⟨stored, equal alikeLines_password⟩

/-- A line of JSON with a password. -/
def jsonLine (secret : String) : String := "\x7b\"password\": \"" ++ secret ++ "\"\x7d"

/-- The runtime, with a reader for two lines of JSON. -/
def jsonLogs : ParserRuntime :=
  { plainLogs with
    loads := fun line =>
      if line = jsonLine "alpha" then .value (.obj [("password", .str "alpha")])
      else if line = jsonLine "beta" then .value (.obj [("password", .str "beta")])
      else .invalid "Expecting value" }

/-- The row of a line of JSON with a password. -/
def jsonRow (secret : String) : Option LogEvent :=
  addedRow emptySession (insertEvent jsonLogs 1 (some 1) 0 emptySession
    [("password", .str secret)] (jsonLine secret))

theorem parsesTo_json {secret : String} (known : secret = "alpha" ∨ secret = "beta") :
    ParsesTo jsonLogs .jsonl (jsonLine secret) [("password", .str secret)] (jsonLine secret) := by
  refine ⟨[⟨some [("password", .str secret)], jsonLine secret, none⟩], ?_,
    List.mem_singleton_self _⟩
  have lines : linesOf jsonLogs (jsonLine secret) = [jsonLine secret] := by
    rcases known with rfl | rfl
    · decide +kernel
    · decide +kernel
  have loaded : jsonLogs.loads (jsonLine secret) = .value (.obj [("password", .str secret)]) := by
    show (if jsonLine secret = jsonLine "alpha" then _ else
      if jsonLine secret = jsonLine "beta" then _ else _) = _
    rcases known with rfl | rfl
    · rw [if_pos rfl]
    · have apart : jsonLine "beta" ≠ jsonLine "alpha" := by decide +kernel
      rw [if_neg apart, if_pos rfl]
  unfold parseContent
  rw [if_neg (by decide), lines, List.mapM_cons, List.mapM_nil]
  unfold parseLine
  dsimp only
  unfold parseJsonLine
  rw [loaded]
  rfl

/-- **The preview shows a secret** behind a key with a hyphen, and behind a quoted key. -/
theorem preview_shows_secret :
    (ParsesTo plainLogs .keyValue "user=bob api-key=alpha"
        [("user", .str "bob"), ("api-key", .str "alpha")] "user=bob api-key=alpha" ∧
      ParsesTo plainLogs .keyValue "user=bob api-key=beta"
        [("user", .str "bob"), ("api-key", .str "beta")] "user=bob api-key=beta" ∧
      isSensitiveKey plainLogs.toTextRuntime "api-key" = true ∧
      (plainRow "api-key" "alpha").isSome = true ∧
      plainRow "api-key" "alpha" ≠ plainRow "api-key" "beta") ∧
    ParsesTo jsonLogs .jsonl (jsonLine "alpha") [("password", .str "alpha")] (jsonLine "alpha") ∧
      ParsesTo jsonLogs .jsonl (jsonLine "beta") [("password", .str "beta")] (jsonLine "beta") ∧
      isSensitiveKey jsonLogs.toTextRuntime "password" = true ∧
      (jsonRow "alpha").isSome = true ∧ jsonRow "alpha" ≠ jsonRow "beta" := by
  have shown : ∀ one other : Option LogEvent,
      one.map (fun row => row.columns.rawPreviewRedacted) ≠
        other.map (fun row => row.columns.rawPreviewRedacted) → one ≠ other := by
    rintro one other differs rfl
    exact differs rfl
  refine ⟨⟨?_, ?_, by decide +kernel, by decide +kernel, shown _ _ (by decide +kernel)⟩,
    parsesTo_json (.inl rfl), parsesTo_json (.inr rfl), by decide +kernel, by decide +kernel,
    shown _ _ (by decide +kernel)⟩
  · exact parsesTo_plain "api-key" "alpha" _ (by decide +kernel) (by decide +kernel)
      (by decide +kernel) (by decide +kernel) (by decide)
  · exact parsesTo_plain "api-key" "beta" _ (by decide +kernel) (by decide +kernel)
      (by decide +kernel) (by decide +kernel) (by decide)

end ThreatScope.SocMonitor
