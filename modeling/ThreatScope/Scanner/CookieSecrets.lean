import ThreatScope.Library.Separated
import ThreatScope.Scanner.Scans

/-!
# Cookie values in the records of a scan

Two runs of a scan whose servers answer alike but for the values of their cookies leave the same
rows exactly when the first response sets the same values in both: the snapshot of its headers
and the evidence of its cookies repeat them (`scan_rows_equal_iff`). The values in every other
response are never read.
-/

set_option autoImplicit false

namespace ThreatScope.Scanner

open Library AccessControl

/-! ## Answers that differ in cookie values -/

/-- Headers that are the same but for the value of a cookie. -/
inductive SameButValue : Header → Header → Prop where
  | plain (name value : String) (other : name ≠ "set-cookie") :
      SameButValue (.plain name value other) (.plain name value other)
  | setCookie (first second : SetCookie) (names : first.name = second.name)
      (attributes : first.attributes = second.attributes) :
      SameButValue (.setCookie first) (.setCookie second)

/-- Answers that are the same but for the values of the cookies they set. -/
inductive SameButCookies : Answer → Answer → Prop where
  | response (first second : HttpResponse) (statusCode : first.statusCode = second.statusCode)
      (headers : List.Forall₂ SameButValue first.headers second.headers)
      (text : first.text = second.text) : SameButCookies (.response first) (.response second)
  | refused (message : String) : SameButCookies (.refused message) (.refused message)
  | raised (message : String) : SameButCookies (.raised message) (.raised message)

/-- The value of a cookie that a header sets. -/
def Header.cookieValue? : Header → Option String
  | .plain .. => none
  | .setCookie cookie => some cookie.value

/-- The values of the cookies an answer sets. -/
def Answer.cookieValues : Answer → List String
  | .response value => value.headers.filterMap Header.cookieValue?
  | _ => []

/-- A scan comes to its first request. -/
def Asks (env : ScanRuntime) (db : ScanDatabase) (scanId : Nat) : Prop :=
  ∃ scan target baseUrl, db.scans.get? scanId = some scan ∧
    db.targets.get? scan.targetId = some target ∧ target.baseUrl = some baseUrl ∧
    db.settings.isSome = true ∧ (requestDetails env baseUrl).isSome = true

/-! ## What a crawl reads -/

theorem SameButValue.name_eq {first second : Header} (same : SameButValue first second) :
    first.name = second.name := by
  cases same <;> rfl

theorem SameButValue.value_eq {first second : Header} (same : SameButValue first second)
    (other : first.name ≠ "set-cookie") : first.value = second.value := by
  cases same with
  | plain name value _ => rfl
  | setCookie one two names attributes => exact absurd rfl other

theorem headerValue?_of_same {first second : List Header}
    (same : List.Forall₂ SameButValue first second) {name : String}
    (other : name ≠ "set-cookie") : headerValue? first name = headerValue? second name := by
  have values : (first.filter fun header => header.name == name).map Header.value =
      (second.filter fun header => header.name == name).map Header.value := by
    induction same with
    | nil => rfl
    | @cons one two firsts seconds here _ ih =>
      rw [List.filter_cons, List.filter_cons, here.name_eq]
      split
      · rename_i named
        have named : two.name = name := by simpa using named
        have named : one.name ≠ "set-cookie" := by
          rw [here.name_eq, named]
          exact other
        rw [List.map_cons, List.map_cons, ih, here.value_eq named]
      · exact ih
  unfold headerValue?
  rw [values]

/-- Two calls of the client of which everything but the headers is the same. -/
inductive SameView : Fetched → Fetched → Prop where
  | response (first second : HttpResponse) (view : first.view = second.view) :
      SameView (.response first) (.response second)
  | error (message : String) : SameView (.error message) (.error message)
  | raised (message : String) : SameView (.raised message) (.raised message)

variable {env : ScanRuntime} {answers others : Nat → Answer}

theorem fetch_sameView (same : ∀ n, SameButCookies (answers n) (others n)) (method url : String)
    (sent : List Request) :
    (fetch env answers method url sent).1 = (fetch env others method url sent).1 ∧
      SameView (fetch env answers method url sent).2
        (fetch env others method url sent).2 := by
  unfold fetch
  cases requestDetails env url with
  | none => exact ⟨rfl, .raised _⟩
  | some details =>
    have here := same sent.length
    dsimp only
    generalize answers sent.length = one at here ⊢
    generalize others sent.length = two at here ⊢
    cases here with
    | response first second statusCode headers text =>
      refine ⟨rfl, .response first second ?_⟩
      rw [HttpResponse.view, HttpResponse.view, statusCode, text,
        headerValue?_of_same headers (by decide)]
    | refused message => exact ⟨rfl, .error _⟩
    | raised message => exact ⟨rfl, .raised _⟩

theorem probe_sameView (same : ∀ n, SameButCookies (answers n) (others n)) (url : String)
    (sent : List Request) :
    (probe env answers url sent).1 = (probe env others url sent).1 ∧
      SameView (probe env answers url sent).2 (probe env others url sent).2 := by
  obtain ⟨sents, views⟩ := @fetch_sameView env answers others same "HEAD" url sent
  unfold probe
  generalize fetch env answers "HEAD" url sent = one at sents views ⊢
  generalize fetch env others "HEAD" url sent = two at sents views ⊢
  obtain ⟨after, first⟩ := one
  obtain ⟨later, second⟩ := two
  obtain rfl : after = later := sents
  cases views with
  | response first second view =>
    have codes : first.statusCode = second.statusCode := congrArg PageView.statusCode view
    dsimp only
    rw [codes]
    split
    · exact fetch_sameView same "GET" url after
    · exact ⟨rfl, .response first second view⟩
  | error message => exact ⟨rfl, .error message⟩
  | raised message => exact ⟨rfl, .raised message⟩

theorem checkExposedFiles_congr (same : ∀ n, SameButCookies (answers n) (others n))
    (baseUrl : String) (paths : List String) (sent : List Request) :
    checkExposedFiles env answers baseUrl paths sent =
      checkExposedFiles env others baseUrl paths sent := by
  induction paths generalizing sent with
  | nil => rfl
  | cons path rest ih =>
    unfold checkExposedFiles
    cases env.urljoin baseUrl path with
    | none => rfl
    | some url =>
      dsimp only
      obtain ⟨sents, views⟩ := @probe_sameView env answers others same url sent
      generalize probe env answers url sent = one at sents views ⊢
      generalize probe env others url sent = two at sents views ⊢
      obtain ⟨after, first⟩ := one
      obtain ⟨later, second⟩ := two
      obtain rfl : after = later := sents
      cases views with
      | response first second view =>
        have codes : first.statusCode = second.statusCode :=
          congrArg PageView.statusCode view
        dsimp only
        rw [ih after, codes, view]
      | error message => exact ih after
      | raised message => rfl

theorem visit_congr (same : ∀ n, SameButCookies (answers n) (others n)) (baseDomain : String)
    (maxDepth : Nat) (visited : List String) (item : QueueItem) (sent : List Request) :
    visit env answers baseDomain maxDepth visited item sent =
      visit env others baseDomain maxDepth visited item sent := by
  obtain ⟨url, depth, parent⟩ := item
  obtain ⟨sents, views⟩ := @fetch_sameView env answers others same "GET" url sent
  unfold visit
  dsimp only
  generalize fetch env answers "GET" url sent = one at sents views ⊢
  generalize fetch env others "GET" url sent = two at sents views ⊢
  obtain ⟨after, first⟩ := one
  obtain ⟨later, second⟩ := two
  obtain rfl : after = later := sents
  cases views with
  | response first second view =>
    have pages : htmlView? (.response first) = htmlView? (.response second) := by
      simp only [htmlView?, view]
    have seen : view? (.response first) = view? (.response second) := by
      simp only [view?, view]
    dsimp only
    rw [pages, seen]
  | error message => rfl
  | raised message => rfl

theorem crawl_congr (same : ∀ n, SameButCookies (answers n) (others n)) (baseDomain : String)
    (maxPages maxDepth : Nat) (queue : List QueueItem) (visited : List String)
    (pages : List CrawledPage) (sent : List Request) :
    crawl env answers baseDomain maxPages maxDepth queue visited pages sent =
      crawl env others baseDomain maxPages maxDepth queue visited pages sent := by
  induction queue, visited, pages, sent using
    crawl.induct env answers baseDomain maxPages maxDepth with
  | case1 visited pages sent => rw [crawl, crawl]
  | case2 visited pages sent item rest full =>
    rw [crawl, crawl, dif_pos full, dif_pos full]
  | case3 visited pages sent item rest room seen ih =>
    rw [crawl, crawl.eq_2 env others, dif_neg room, dif_neg room, if_pos seen, if_pos seen]
    exact ih
  | case4 visited pages sent item rest room new after message turn =>
    rw [crawl, crawl, dif_neg room, dif_neg room, if_neg new, if_neg new, ← visit_congr same,
      turn]
  | case5 visited pages sent item rest room new after node items turn ih =>
    rw [crawl, crawl.eq_2 env others, dif_neg room, dif_neg room, if_neg new, if_neg new,
      ← visit_congr same, turn]
    exact ih

theorem exploreTarget_congr (same : ∀ n, SameButCookies (answers n) (others n))
    (profile baseUrl : String) (settings : AppSettings) (sent : List Request) :
    exploreTarget env answers profile baseUrl settings sent =
      exploreTarget env others profile baseUrl settings sent := by
  unfold exploreTarget
  simp only [checkExposedFiles_congr same, crawl_congr same]

variable {generateReport : ScanDatabase → Nat → String}

theorem scanTarget_congr (same : ∀ n, SameButCookies (answers n) (others n))
    {db : ScanDatabase} {scanId targetId : Nat} {scan : Scan} {targetName baseUrl : String}
    {settings : AppSettings} {now : Instant}
    (first : (requestDetails env baseUrl).isSome = true → answers 0 = others 0) :
    scanTarget env generateReport db scanId targetId scan targetName baseUrl settings
        answers now =
      scanTarget env generateReport db scanId targetId scan targetName baseUrl settings
        others now := by
  have asked : fetch env answers "GET" baseUrl [] = fetch env others "GET" baseUrl [] := by
    unfold fetch
    cases details : requestDetails env baseUrl with
    | none => rfl
    | some _ =>
      dsimp only [List.length_nil]
      rw [first (by rw [details]; rfl)]
  unfold scanTarget
  rw [asked]
  simp only [exploreTarget_congr same]

/-! ## The snapshot of the headers -/

section Snapshot

variable (db : ScanDatabase) (scanId targetId : Nat)

theorem evidence_crashScan (message : String) (now : Instant) :
    (db.crashScan scanId message now).evidence = db.evidence := rfl

theorem evidence_addFinding (data : FindingData) :
    (db.addFinding env scanId targetId data).evidence = db.evidence := by
  unfold ScanDatabase.addFinding
  dsimp only
  split
  · rfl
  · split <;> rfl

theorem evidence_addDiff (findings : List FindingData) :
    (db.addDiff scanId targetId findings).evidence = db.evidence := by
  unfold ScanDatabase.addDiff
  split <;> rfl

theorem evidence_addReport (targetName : String) (settings : AppSettings) (count : Nat) :
    (db.addReport generateReport scanId targetId targetName settings count).evidence =
      db.evidence := by
  unfold ScanDatabase.addReport
  split <;> rfl

theorem evidence_finishScan (targetName : String) (settings : AppSettings)
    (findings : List FindingData) (now : Instant) :
    (finishScan env generateReport db scanId targetId targetName settings findings
      now).evidence = db.evidence := by
  have saved : (findings.foldl (ScanDatabase.addFinding env scanId targetId)
      db).evidence = db.evidence := by
    induction findings generalizing db with
    | nil => rfl
    | cons data rest ih => exact (ih _).trans (evidence_addFinding db scanId targetId data)
  unfold finishScan
  dsimp only
  split <;>
  · simp only [ScanDatabase.notify, evidence_addReport, evidence_addDiff]
    exact saved

theorem get?_evidence_addPages (pages : List CrawledPage) {key : Nat} {row : EvidenceArtifact}
    (found : db.evidence.get? key = some row) :
    (pages.foldl (ScanDatabase.addPage scanId targetId) db).evidence.get? key =
      some row := by
  induction pages generalizing db with
  | nil => exact found
  | cons page rest ih =>
    refine ih _ ?_
    have here := ne_of_lt (Table.lt_nextKey_of_get? found)
    unfold ScanDatabase.addPage
    dsimp only
    split
    · split
      · exact (Table.get?_insert_of_ne _ _ here).trans found
      · exact found
    · exact found

end Snapshot

theorem evidence_scanTarget {db : ScanDatabase} {scanId targetId : Nat} {scan : Scan}
    {targetName baseUrl : String} {settings : AppSettings} {now : Instant}
    {sent : List Request} {value : HttpResponse}
    (answered : fetch env answers "GET" baseUrl [] = (sent, .response value)) :
    (scanTarget env generateReport db scanId targetId scan targetName baseUrl settings
      answers now).db.evidence.get? db.evidence.nextKey =
        some ⟨scanId, targetId, "header_snapshot", "Base URL Response Headers",
          headerText env value.headers, baseUrl⟩ := by
  have noted : (db.addHeaderEvidence env scanId targetId baseUrl
      value.headers).evidence.get? db.evidence.nextKey =
        some ⟨scanId, targetId, "header_snapshot", "Base URL Response Headers",
          headerText env value.headers, baseUrl⟩ := Table.get?_insert_nextKey _ _
  unfold scanTarget
  rw [answered]
  dsimp only
  cases passiveFindings env baseUrl ((sent.head?.map Request.url).getD "") value with
  | error message =>
    rw [evidence_crashScan]
    exact noted
  | ok passive =>
  dsimp only
  split
  · cases exploreTarget env answers scan.profile baseUrl settings sent with
    | mk after result =>
      cases result with
      | error message =>
        rw [evidence_crashScan]
        exact noted
      | ok found =>
        obtain ⟨active, pages⟩ := found
        dsimp only
        rw [evidence_finishScan]
        exact get?_evidence_addPages _ _ _ pages noted
  · dsimp only
    rw [evidence_finishScan]
    exact noted

/-! ## Cookies in a snapshot -/

/-- The cookies that headers set. -/
def cookiesOf (headers : List Header) : List SetCookie :=
  headers.filterMap fun header => match header with
    | .plain .. => none
    | .setCookie cookie => some cookie

/-- The text of a cookie. -/
def SetCookie.text (cookie : SetCookie) : String :=
  cookie.name ++ "=" ++ cookie.value ++ cookie.attributes

theorem values_setCookie (headers : List Header) :
    (headers.filter fun header => header.name == "set-cookie").map Header.value =
      (cookiesOf headers).map SetCookie.text := by
  induction headers with
  | nil => rfl
  | cons header rest ih =>
    cases header with
    | plain name value other =>
      have skipped : ((Header.plain name value other).name == "set-cookie") = false :=
        beq_eq_false_iff_ne.mpr other
      rw [List.filter_cons, skipped, if_neg Bool.false_ne_true, ih]
      rfl
    | setCookie cookie =>
      have kept : ((Header.setCookie cookie).name == "set-cookie") = true := rfl
      rw [List.filter_cons, kept, if_pos rfl, List.map_cons, ih]
      rfl

theorem cookieValues_response (value : HttpResponse) :
    (Answer.response value).cookieValues = (cookiesOf value.headers).map SetCookie.value := by
  show value.headers.filterMap Header.cookieValue? = _
  unfold cookiesOf
  rw [List.map_filterMap]
  refine List.filterMap_congr fun header _ => ?_
  cases header <;> rfl

/-- **The values of cookies can be read off their joined texts.** -/
theorem values_of_joined {first second : List SetCookie}
    (same : List.Forall₂ (fun one two : SetCookie => one.name = two.name ∧
      one.attributes = two.attributes) first second)
    (joined : joinValues (first.map SetCookie.text) = joinValues (second.map SetCookie.text)) :
    first.map SetCookie.value = second.map SetCookie.value := by
  induction same with
  | nil => rfl
  | @cons one two firsts seconds here rest ih =>
    obtain ⟨names, attributes⟩ := here
    have letters := congrArg String.toList joined
    cases rest with
    | nil =>
      simp only [List.map_cons, List.map_nil, joinValues, SetCookie.text, names, attributes,
        String.toList_append, List.append_assoc, List.append_cancel_left_eq,
        List.append_cancel_right_eq] at letters
      rw [List.map_cons, List.map_cons, String.toList_inj.mp letters]
    | @cons next other nexts others after later =>
      simp only [List.map_cons, joinValues, SetCookie.text, names, attributes,
        String.toList_append, List.append_assoc, List.append_cancel_left_eq] at letters
      have stops : ∀ tail : List Char, BeginsWith (fun c => c = ';' ∨ c = ',')
          (two.attributes.toList ++ (", ".toList ++ tail)) := by
        intro tail
        have begins := two.attributes_begin
        cases text : two.attributes.toList with
        | nil => exact .inr rfl
        | cons c rest =>
          rw [text] at begins
          exact .inl (begins c rfl)
      have clear : ∀ cookie : SetCookie, ∀ c ∈ cookie.value.toList, ¬ (c = ';' ∨ c = ',') :=
        fun cookie c inside => not_or.mpr (cookie.value_plain c inside)
      obtain ⟨values, tails⟩ :=
        append_eq_of_no_stop (clear one) (clear two) (stops _) (stops _) letters
      have tails := List.append_cancel_left (List.append_cancel_left tails)
      have texts : joinValues ((next :: nexts).map SetCookie.text) =
          joinValues ((other :: others).map SetCookie.text) := by
        apply String.toList_inj.mp
        simpa only [List.map_cons, joinValues, SetCookie.text, String.toList_append,
          List.append_assoc] using tails
      exact congrArg₂ List.cons (String.toList_inj.mp values) (ih texts)

theorem headers_eq_of_values {firsts seconds : List Header}
    (same : List.Forall₂ SameButValue firsts seconds)
    (values : firsts.filterMap Header.cookieValue? = seconds.filterMap Header.cookieValue?) :
    firsts = seconds := by
  induction same with
  | nil => rfl
  | @cons header other rest others here _ ih =>
    cases here with
    | plain name value _ =>
      rw [List.filterMap_cons_none rfl, List.filterMap_cons_none rfl] at values
      rw [ih values]
    | setCookie cookie another names attributes =>
      have reads : ∀ one : SetCookie, (Header.setCookie one).cookieValue? = some one.value :=
        fun _ => rfl
      rw [List.filterMap_cons_some (reads cookie),
        List.filterMap_cons_some (reads another)] at values
      obtain ⟨value, tails⟩ := List.cons.inj values
      have equal : cookie = another := by
        cases cookie
        cases another
        simp_all
      rw [ih tails, equal]

theorem eq_of_cookieValues {first second : Answer} (same : SameButCookies first second)
    (values : first.cookieValues = second.cookieValues) : first = second := by
  cases same with
  | refused message => rfl
  | raised message => rfl
  | response one two statusCode headers text =>
    have both : one.headers = two.headers := headers_eq_of_values headers values
    cases one
    cases two
    simp_all

theorem cookies_of_same {firsts seconds : List Header}
    (same : List.Forall₂ SameButValue firsts seconds) :
    List.Forall₂ (fun one two : SetCookie => one.name = two.name ∧
      one.attributes = two.attributes) (cookiesOf firsts) (cookiesOf seconds) := by
  induction same with
  | nil => exact .nil
  | @cons header other rest others here _ ih =>
    cases here with
    | plain name value _ => exact ih
    | setCookie cookie another names attributes => exact .cons ⟨names, attributes⟩ ih

theorem names_of_same {firsts seconds : List Header}
    (same : List.Forall₂ SameButValue firsts seconds) :
    firsts.map Header.name = seconds.map Header.name := by
  induction same with
  | nil => rfl
  | cons here _ ih => rw [List.map_cons, List.map_cons, here.name_eq, ih]

theorem headerValue?_setCookie (headers : List Header) :
    (headerValue? headers "set-cookie").getD "" =
      joinValues ((cookiesOf headers).map SetCookie.text) := by
  unfold headerValue?
  rw [values_setCookie]
  cases (cookiesOf headers).map SetCookie.text <;> rfl

theorem cookieValues_of_headerDict {first second : HttpResponse}
    (same : List.Forall₂ SameButValue first.headers second.headers)
    (dicts : headerDict first.headers = headerDict second.headers) :
    (Answer.response first).cookieValues = (Answer.response second).cookieValues := by
  rw [cookieValues_response, cookieValues_response]
  have cookies := cookies_of_same same
  cases found : cookiesOf first.headers with
  | nil =>
    rw [found] at cookies
    rw [List.forall₂_nil_left_iff.mp cookies]
  | cons cookie rest =>
    have listed : "set-cookie" ∈ (first.headers.map Header.name).reverse.dedup.reverse := by
      rw [List.mem_reverse, List.mem_dedup, List.mem_reverse, List.mem_map]
      have member : cookie ∈ cookiesOf first.headers := by
        rw [found]
        exact List.mem_cons_self
      obtain ⟨header, place, reads⟩ := List.mem_filterMap.mp member
      refine ⟨header, place, ?_⟩
      cases header with
      | plain name value other => cases reads
      | setCookie other => rfl
    unfold headerDict at dicts
    rw [← names_of_same same] at dicts
    have value := (Prod.mk.inj (List.map_inj_left.mp dicts "set-cookie" listed)).2
    rw [headerValue?_setCookie, headerValue?_setCookie] at value
    rw [← found]
    exact values_of_joined cookies value

/-! ## Two runs -/

theorem cookieValues_of_rows (same : ∀ n, SameButCookies (answers n) (others n))
    (readable : ∀ first second, answers 0 = .response first → others 0 = .response second →
      headerText env first.headers = headerText env second.headers →
        headerDict first.headers = headerDict second.headers)
    {db : ScanDatabase} {scanId targetId : Nat} {scan : Scan} {targetName baseUrl : String}
    {settings : AppSettings} {now : Instant} (details : (requestDetails env baseUrl).isSome = true)
    (equal : (scanTarget env generateReport db scanId targetId scan targetName baseUrl
        settings answers now).db =
      (scanTarget env generateReport db scanId targetId scan targetName baseUrl
        settings others now).db) :
    (answers 0).cookieValues = (others 0).cookieValues := by
  have here := same 0
  cases one : answers 0 <;> cases two : others 0 <;> rw [one, two] at here <;> cases here
  case refused.refused.refused => rfl
  case raised.raised.raised => rfl
  case response.response.response first second statusCode headers text =>
      obtain ⟨⟨requestUrl, host⟩, split⟩ := Option.isSome_iff_exists.mp details
      have asked : fetch env answers "GET" baseUrl [] =
          ([⟨"GET", requestUrl, host⟩], .response first) := by
        simp only [fetch, split, List.length_nil, one, List.nil_append]
      have asked' : fetch env others "GET" baseUrl [] =
          ([⟨"GET", requestUrl, host⟩], .response second) := by
        simp only [fetch, split, List.length_nil, two, List.nil_append]
      have rows := congrArg
        (fun rows : ScanDatabase => rows.evidence.get? db.evidence.nextKey) equal
      rw [evidence_scanTarget asked, evidence_scanTarget asked'] at rows
      have texts := congrArg EvidenceArtifact.redactedText (Option.some.inj rows)
      exact cookieValues_of_headerDict headers (readable first second one two texts)

/-- **Two runs leave the same rows exactly when the first response sets the same values**, or the
scan does not come to a request. `readable` says that `str` tells two snapshots apart. -/
theorem scan_rows_equal_iff (env : ScanRuntime) (generateReport : ScanDatabase → Nat → String)
    (db : ScanDatabase) (scanId : Nat) (now : Instant) (answers others : Nat → Answer)
    (same : ∀ n, SameButCookies (answers n) (others n))
    (readable : ∀ first second, answers 0 = .response first → others 0 = .response second →
      headerText env first.headers = headerText env second.headers →
        headerDict first.headers = headerDict second.headers) :
    (asyncRunScan env generateReport db scanId answers now).db =
        (asyncRunScan env generateReport db scanId others now).db ↔
      (Asks env db scanId → (answers 0).cookieValues = (others 0).cookieValues) := by
  unfold asyncRunScan
  cases found : db.scans.get? scanId with
  | none =>
    refine iff_of_true rfl ?_
    rintro ⟨scan, target, baseUrl, wrong, -⟩
    rw [found] at wrong
    cases wrong
  | some scan =>
    dsimp only
    cases located : db.targets.get? scan.targetId with
    | none =>
      refine iff_of_true rfl ?_
      rintro ⟨other, target, baseUrl, found', wrong, -⟩
      rw [found] at found'
      rw [← Option.some.inj found', located] at wrong
      cases wrong
    | some target =>
      dsimp only [ScanDatabase.notify]
      cases settled : db.settings with
      | none =>
        refine iff_of_true ?_ ?_
        · cases target.baseUrl <;> rfl
        · rintro ⟨_, _, _, -, -, -, wrong, -⟩
          rw [settled] at wrong
          cases wrong
      | some settings =>
        cases based : target.baseUrl with
        | none =>
          refine iff_of_true rfl ?_
          rintro ⟨other, another, baseUrl, found', located', wrong, -⟩
          rw [found] at found'
          rw [← Option.some.inj found', located] at located'
          rw [← Option.some.inj located', based] at wrong
          cases wrong
        | some baseUrl =>
          dsimp only
          have asks : Asks env db scanId ↔
              (requestDetails env baseUrl).isSome = true := by
            constructor
            · rintro ⟨other, another, url, found', located', based', -, details⟩
              rw [found] at found'
              rw [← Option.some.inj found', located] at located'
              rw [← Option.some.inj located', based] at based'
              rw [Option.some.inj based']
              exact details
            · intro details
              exact ⟨scan, target, baseUrl, found, located, based,
                by rw [settled]; rfl, details⟩
          rw [asks]
          constructor
          · intro equal details
            exact cookieValues_of_rows same readable details equal
          · intro values
            exact congrArg ScanOutcome.db (scanTarget_congr same fun details =>
              eq_of_cookieValues (same 0) (values details))

section Shop

/-- `repr(value)` of the headers of a response. -/
def headersRepr : Json → String
  | .obj fields => "\x7b" ++ joinValues (fields.map fun field => match field.2 with
      | .str text => "'" ++ field.1 ++ "': '" ++ text ++ "'"
      | _ => "'" ++ field.1 ++ "'") ++ "\x7d"
  | _ => ""

/-- A runtime for one URL. -/
def shopRuntime : ScanRuntime where
  py := { foldTable := fun c => [c], parseInt := fun _ => none, repr := headersRepr,
              floatText := fun _ => "0.0" }
  lower text := String.ofList (text.toList.map Char.toLower)
  urlsplit := fun _ => some ⟨"https", "shop.test", "/", "", ""⟩
  urlunsplit := fun _ => "https://shop.test/"
  hostname := some
  port := fun _ => some none
  urljoin := fun _ url => some url
  localhostScanHost := none
  parseHtml := fun _ => .ok ⟨none, [], [], [], []⟩
  remediation := fun _ => ("", "")

/-- A queued scan of the shop. -/
def queuedShop : ScanDatabase where
  targets := Table.empty.insert
    ⟨"Shop", some "https://shop.test/", some "shop.test", none, some true⟩
  scans := Table.empty.insert (newScan 1 "Passive Scan")
  findings := Table.empty
  evidence := Table.empty
  crawlNodes := Table.empty
  postureDiffs := Table.empty
  reports := Table.empty
  notifications := []
  settings := some ⟨10, 50, 2, 5, false⟩

/-- A session cookie without flags. -/
def sessionCookie (value : String) (plain : ∀ c ∈ value.toList, c ≠ ';' ∧ c ≠ ',') : SetCookie :=
  ⟨"sid", value, "; Path=/", plain, by simp⟩

/-- The shop, with the cookie of a first session. -/
def firstSession : HttpResponse :=
  ⟨200, [.setCookie (sessionCookie "a1" (by simp))], ""⟩

/-- The shop, with the cookie of a second session. -/
def secondSession : HttpResponse :=
  ⟨200, [.setCookie (sessionCookie "b2" (by simp))], ""⟩

theorem sessions_same : SameButCookies (.response firstSession) (.response secondSession) :=
  .response _ _ rfl (.cons (.setCookie _ _ rfl rfl) .nil) rfl

theorem scan_keeps_session :
    ¬ ∀ (env : ScanRuntime) (generateReport : ScanDatabase → Nat → String)
      (db : ScanDatabase) (scanId : Nat) (now : Instant) (answers others : Nat → Answer),
      (∀ n, SameButCookies (answers n) (others n)) →
        (asyncRunScan env generateReport db scanId answers now).db =
          (asyncRunScan env generateReport db scanId others now).db := by
  intro always
  have rows := always shopRuntime (fun _ _ => "") queuedShop 1 0
    (fun _ => .response firstSession) (fun _ => .response secondSession) fun _ => sessions_same
  have findings := congrArg (fun db : ScanDatabase =>
    db.findings.rows.map fun row => row.2.data.evidence) rows
  exact absurd findings (by decide +kernel)

theorem scan_rows_differ_of_sessions :
    (asyncRunScan shopRuntime (fun _ _ => "") queuedShop 1
        (fun _ => .response firstSession) 0).db ≠
      (asyncRunScan shopRuntime (fun _ _ => "") queuedShop 1
        (fun _ => .response secondSession) 0).db := by
  have asks : Asks shopRuntime queuedShop 1 := ⟨_, _, _, rfl, rfl, rfl, rfl, rfl⟩
  intro equal
  refine absurd ((scan_rows_equal_iff shopRuntime (fun _ _ => "") queuedShop 1 0
    (fun _ => .response firstSession) (fun _ => .response secondSession)
    (fun _ => sessions_same) ?_).mp equal asks) (by decide)
  rintro first second one two texts
  obtain rfl := Answer.response.inj one
  obtain rfl := Answer.response.inj two
  exact absurd texts (by decide +kernel)

end Shop

end ThreatScope.Scanner
