import ThreatScope.Library.Runs
import ThreatScope.Library.Traversals
import ThreatScope.Scanner.Scans

/-!
# Where a scan sends its requests

A ledger follows the calls that create targets, edit them, queue scans and run them. Besides the
rows it keeps the base URLs that were set by a request that confirmed authorization, the targets
whose base URL was last set without one and the targets whose confirmation was last taken back.

A scan reads its target when it runs, not when it is queued, and does not look at the flag again;
`update_target` keeps the flag when it changes the base URL; and the crawler follows every link
with the netloc of the base URL, whatever its scheme. In a run in which no scan meets one of
these, every request goes to an origin that was confirmed (`scans_stay_inside`).
-/

set_option autoImplicit false

namespace ThreatScope.Scanner

open Library AccessControl

/-! ## Origins -/

/-- Where a URL leads: its scheme, host and port. The port is none when it cannot be read. -/
structure Origin where
  scheme : String
  host : Option String
  port : Option (Option Nat)
deriving DecidableEq

/-- The port of a scheme. -/
def defaultPort (scheme : String) : Option Nat :=
  if scheme = "http" then some 80 else if scheme = "https" then some 443 else none

section Origins

variable (env : ScanRuntime)

/-- The origin of a URL, none when it cannot be read. -/
def originOf (url : String) : Option Origin :=
  (env.urlsplit url).map fun parsed =>
    ⟨parsed.scheme, env.hostname parsed.netloc,
      (env.port parsed.netloc).map fun port => port.or (defaultPort parsed.scheme)⟩

/-- Two URLs lead to one origin. -/
def sameOrigin (first second : String) : Bool :=
  (originOf env first).isSome && originOf env first == originOf env second

/-- The netloc of a URL. -/
def netlocOf (url : String) : Option String := (env.urlsplit url).map UrlParts.netloc

theorem sameOrigin_self {url : String} (read : (env.urlsplit url).isSome = true) :
    sameOrigin env url url = true := by
  obtain ⟨parsed, split⟩ := Option.isSome_iff_exists.mp read
  simp [sameOrigin, originOf, split]

theorem sameOrigin_of_eq {first second third : String}
    (equal : originOf env first = originOf env second)
    (same : sameOrigin env second third = true) : sameOrigin env first third = true := by
  unfold sameOrigin at same ⊢
  rw [equal]
  exact same

end Origins

/-! ## The ledger -/

/-- A call. -/
inductive ScanEvent where
  | createTarget (payload : TargetCreate)
  | updateTarget (targetId : Nat) (payload : TargetUpdate)
  | startScan (targetId : Nat) (profile : String)
  /-- A queued scan runs, and the server answers. -/
  | runScan (scanId : Nat) (answers : Nat → Answer) (now : Instant)

/-- The rows and what was confirmed. -/
structure Ledger where
  db : ScanDatabase
  /-- The base URLs that were set by a request that confirmed authorization. -/
  confirmed : List String
  /-- The targets whose base URL was last set by a request that did not, to an origin that nobody
  had confirmed. -/
  unconfirmed : List Nat
  /-- The targets of which the last request that names the confirmation takes it back. -/
  withdrawn : List Nat

/-- The base URL that an update sets and confirms. -/
def TargetUpdate.confirms (payload : TargetUpdate) : List String :=
  match payload.baseUrl, payload.authorizationConfirmed with
  | some (some url), some (some true) => [url]
  | _, _ => []

section Ledgers

variable (env : ScanRuntime) (generateReport : ScanDatabase → Nat → String)

/-- Somebody confirmed the origin of a URL. -/
def confirmedOrigin (confirmed : List String) (url : String) : Bool :=
  confirmed.any (sameOrigin env url)

/-- The targets with a base URL that nobody confirmed, after an update. -/
def unconfirmedAfter (confirmed : List String) (unconfirmed : List Nat) (targetId : Nat)
    (payload : TargetUpdate) : List Nat :=
  match payload.baseUrl with
  | none => unconfirmed
  | some none => unconfirmed.filter (· != targetId)
  | some (some url) =>
    if confirmedOrigin env confirmed url then unconfirmed.filter (· != targetId)
    else targetId :: unconfirmed

/-- The targets whose confirmation is taken back, after an update. -/
def withdrawnAfter (withdrawn : List Nat) (targetId : Nat) (payload : TargetUpdate) : List Nat :=
  match payload.authorizationConfirmed with
  | none => withdrawn
  | some answer =>
    if answer = some true then withdrawn.filter (· != targetId) else targetId :: withdrawn

/-- A call, with what it confirms. -/
def Ledger.step (ledger : Ledger) : ScanEvent → Ledger
  | .createTarget payload =>
    match createTarget env ledger.db payload with
    | .error _ => ledger
    | .ok db =>
      { ledger with
        db := db
        confirmed := if payload.authorizationConfirmed then
          payload.baseUrl :: ledger.confirmed else ledger.confirmed }
  | .updateTarget targetId payload =>
    match updateTarget env ledger.db targetId payload with
    | .error _ => ledger
    | .ok db =>
      let confirmed := payload.confirms ++ ledger.confirmed
      { db := db
        confirmed := confirmed
        unconfirmed :=
          unconfirmedAfter env confirmed ledger.unconfirmed targetId payload
        withdrawn := withdrawnAfter ledger.withdrawn targetId payload }
  | .startScan targetId profile =>
    match startScan ledger.db targetId profile with
    | .error _ => ledger
    | .ok db => { ledger with db := db }
  | .runScan scanId answers now =>
    { ledger with
      db := (asyncRunScan env generateReport ledger.db scanId answers
        now).db }

/-- A ledger before the first call. -/
def Ledger.start (db : ScanDatabase) : Ledger := ⟨db, [], [], []⟩

/-- **What a scan owes to its authorization**: it sends nothing unless its target is still
confirmed, and each request goes to the origin of a base URL that was confirmed when it was set. -/
def ScanInside (ledger : Ledger) (scanId : Nat) (answers : Nat → Answer) (now : Instant) :
    Prop :=
  ∀ request ∈ (asyncRunScan env generateReport ledger.db scanId answers now).sent,
    (∃ scan target, ledger.db.scans.get? scanId = some scan ∧
      ledger.db.targets.get? scan.targetId = some target ∧
      target.authorizationConfirmed = some true) ∧
    ∃ url ∈ ledger.confirmed, sameOrigin env request.url url = true

/-- The scan of a transition stays inside. -/
def StaysInside (move : Transition Ledger ScanEvent) : Prop :=
  ∀ scanId answers now, move.input = .runScan scanId answers now →
    ScanInside env generateReport move.before scanId answers now

/-! ## The condition -/

/-- The client sends what is for a host to another one. -/
def Redirected (url : String) : Prop :=
  ∃ replacement netloc, env.localhostScanHost = some replacement ∧ replacement ≠ "" ∧
    netlocOf env url = some netloc ∧ (env.hostname netloc).any localHosts.contains = true

/-- A URL with the netloc of the base URL and an origin that was confirmed. -/
def Inside (confirmed : List String) (baseUrl url : String) : Prop :=
  netlocOf env url = netlocOf env baseUrl ∧
    confirmedOrigin env confirmed url = true

/-- No page in the answers links, under the netloc of the base URL, to an origin that nobody
confirmed. -/
def LinksStayInside (confirmed : List String) (baseUrl : String) (answers : Nat → Answer) :
    Prop :=
  ∀ n value view document, answers n = .response value →
    htmlView? (.response value) = some view → env.parseHtml view.text = .ok document →
    ∀ href ∈ document.links, ∀ current joined,
      Inside env confirmed baseUrl current → env.urljoin current href = some joined →
        netlocOf env (dropFragment joined) = netlocOf env baseUrl →
          confirmedOrigin env confirmed (dropFragment joined) = true

/-- What a scan finds of its target when it runs. -/
structure Finds (db : ScanDatabase) (scanId : Nat) (scan : Scan) (target : Target)
    (baseUrl : String) : Prop where
  scan_found : db.scans.get? scanId = some scan
  target_found : db.targets.get? scan.targetId = some target
  baseUrl_eq : target.baseUrl = some baseUrl
  settings_found : db.settings.isSome = true

/-- **A scan that meets none of the gaps**: the confirmation of its target was not taken back, its
base URL was confirmed when it was set, no host stands in for it and no page leads elsewhere. -/
def Guarded (ledger : Ledger) (scanId : Nat) (answers : Nat → Answer) : Prop :=
  ∀ scan target baseUrl, Finds ledger.db scanId scan target baseUrl →
    scan.targetId ∉ ledger.withdrawn ∧ scan.targetId ∉ ledger.unconfirmed ∧
      ¬ Redirected env baseUrl ∧
      (isActive scan.profile = true →
        LinksStayInside env ledger.confirmed baseUrl answers)

/-- The client answers only for `http` and `https`. -/
def Served (ledger : Ledger) (scanId : Nat) (answers : Nat → Answer) : Prop :=
  ∀ scan target baseUrl parsed, Finds ledger.db scanId scan target baseUrl →
    env.urlsplit baseUrl = some parsed → parsed.scheme ∉ ["http", "https"] →
      ∀ value, answers 0 ≠ .response value

/-- `urljoin` keeps the scheme and the netloc for an absolute path. -/
def JoinsPaths : Prop :=
  ∀ baseUrl parsed path joined, env.urlsplit baseUrl = some parsed →
    parsed.scheme ∈ ["http", "https"] → path ∈ safeFilesList →
      env.urljoin baseUrl path = some joined →
        ∃ other, env.urlsplit joined = some other ∧ other.scheme = parsed.scheme ∧
          other.netloc = parsed.netloc

end Ledgers

/-! ## What a scan sends -/

section Requests

variable {env : ScanRuntime} {confirmed : List String} {baseUrl : String} (answers : Nat → Answer)

/-- Where the requests of a scan go. -/
def AllConfirmed (env : ScanRuntime) (confirmed : List String) (sent : List Request) : Prop :=
  ∀ request ∈ sent, confirmedOrigin env confirmed request.url = true

theorem requestDetails_of_not_redirected {url requestUrl : String} {host : Option String}
    (direct : ¬ Redirected env url)
    (details : requestDetails env url = some (requestUrl, host)) : requestUrl = url := by
  unfold requestDetails at details
  obtain ⟨parsed, split, details⟩ := Option.bind_eq_some_iff.mp details
  cases stand : env.localhostScanHost with
  | none =>
    rw [stand] at details
    exact (Prod.mk.inj (Option.some.inj details)).1.symm
  | some replacement =>
    rw [stand] at details
    dsimp only at details
    split at details
    · rename_i here
      refine absurd ⟨replacement, parsed.netloc, stand, here.1, ?_, here.2⟩ direct
      rw [netlocOf, split, Option.map_some]
    · exact (Prod.mk.inj (Option.some.inj details)).1.symm

theorem Inside.not_redirected {url : String} (inside : Inside env confirmed baseUrl url)
    (direct : ¬ Redirected env baseUrl) : ¬ Redirected env url := by
  rintro ⟨replacement, netloc, stand, filled, found, stands⟩
  exact direct ⟨replacement, netloc, stand, filled, inside.1.symm.trans found, stands⟩

theorem fetch_allConfirmed (method : String) (direct : ¬ Redirected env baseUrl)
    {url : String} (inside : Inside env confirmed baseUrl url) {sent : List Request}
    (before : AllConfirmed env confirmed sent) :
    AllConfirmed env confirmed (fetch env answers method url sent).1 := by
  unfold fetch
  cases details : requestDetails env url with
  | none => exact before
  | some found =>
    obtain ⟨requestUrl, host⟩ := found
    have kept := requestDetails_of_not_redirected (inside.not_redirected direct) details
    have after : AllConfirmed env confirmed (sent ++ [⟨method, requestUrl, host⟩]) := by
      intro request member
      rcases List.mem_append.mp member with early | last
      · exact before request early
      · rw [List.mem_singleton.mp last, kept]
        exact inside.2
    dsimp only
    cases answers sent.length <;> exact after

theorem answer_of_fetch (method url : String) (sent : List Request) {value : HttpResponse}
    (answered : (fetch env answers method url sent).2 = .response value) :
    answers sent.length = .response value := by
  unfold fetch at answered
  cases details : requestDetails env url with
  | none =>
    rw [details] at answered
    cases answered
  | some found =>
    rw [details] at answered
    dsimp only at answered
    cases given : answers sent.length with
    | response other =>
      rw [given] at answered
      cases answered
      rfl
    | refused message =>
      rw [given] at answered
      cases answered
    | raised message =>
      rw [given] at answered
      cases answered

theorem probe_allConfirmed (direct : ¬ Redirected env baseUrl) {url : String}
    (inside : Inside env confirmed baseUrl url) {sent : List Request}
    (before : AllConfirmed env confirmed sent) :
    AllConfirmed env confirmed (probe env answers url sent).1 := by
  have asked := fetch_allConfirmed answers "HEAD" direct inside before
  unfold probe
  generalize fetch env answers "HEAD" url sent = head at asked ⊢
  obtain ⟨after, result⟩ := head
  cases result with
  | response value =>
    dsimp only
    split
    · exact fetch_allConfirmed answers "GET" direct inside asked
    · exact asked
  | error message => exact asked
  | raised message => exact asked

theorem checkExposedFiles_allConfirmed (direct : ¬ Redirected env baseUrl) {paths : List String}
    (joins : ∀ path ∈ paths, ∀ url, env.urljoin baseUrl path = some url →
      Inside env confirmed baseUrl url)
    {sent : List Request} (before : AllConfirmed env confirmed sent) :
    AllConfirmed env confirmed
      (checkExposedFiles env answers baseUrl paths sent).1 := by
  induction paths generalizing sent with
  | nil => exact before
  | cons path rest ih =>
    have later := fun other (member : other ∈ rest) =>
      joins other (List.mem_cons_of_mem _ member)
    unfold checkExposedFiles
    cases joined : env.urljoin baseUrl path with
    | none => exact before
    | some url =>
      have probed := probe_allConfirmed answers direct
        (joins path List.mem_cons_self url joined) before
      dsimp only
      generalize probe env answers url sent = one at probed ⊢
      obtain ⟨after, result⟩ := one
      cases result with
      | raised message => exact probed
      | error message => exact ih later probed
      | response value => exact ih later probed

/-! ### The crawler -/

theorem of_mem_followed {baseDomain current : String} {visited links urls : List String}
    (found : followed env baseDomain current visited links = some urls) {url : String}
    (member : url ∈ urls) :
    ∃ href ∈ links, ∃ joined, env.urljoin current href = some joined ∧
      url = dropFragment joined ∧ netlocOf env url = some baseDomain := by
  unfold followed at found
  obtain ⟨read, joins, found⟩ := Option.bind_eq_some_iff.mp found
  obtain ⟨kept, origins, found⟩ := Option.bind_eq_some_iff.mp found
  cases found
  obtain ⟨⟨same, accepted⟩, place, rfl⟩ := List.mem_map.mp member
  obtain ⟨stored, passes⟩ := List.mem_filter.mp place
  obtain ⟨source, listed, origin⟩ := mem_of_mapM_eq_some origins stored
  obtain ⟨answer, reads, result⟩ := Option.bind_eq_some_iff.mp origin
  cases result
  obtain ⟨parsed, split, rfl⟩ := Option.map_eq_some_iff.mp reads
  obtain ⟨href, link, joined⟩ := mem_of_mapM_eq_some joins listed
  obtain ⟨whole, here, rfl⟩ := Option.map_eq_some_iff.mp joined
  refine ⟨href, link, whole, here, rfl, ?_⟩
  rw [netlocOf, split, Option.map_some]
  have netloc := (Bool.and_eq_true_iff.mp passes).1
  exact congrArg some (by simpa using netloc)

/-- **One turn of the crawler stays inside**, and so does what it puts in its queue. -/
theorem visit_inside {baseDomain : String} (maxDepth : Nat) (visited : List String)
    {item : QueueItem} {sent : List Request} (direct : ¬ Redirected env baseUrl)
    (based : netlocOf env baseUrl = some baseDomain)
    (links : LinksStayInside env confirmed baseUrl answers)
    (inside : Inside env confirmed baseUrl item.1) (before : AllConfirmed env confirmed sent) :
    AllConfirmed env confirmed
        (visit env answers baseDomain maxDepth visited item sent).1 ∧
      ∀ node items, (visit env answers baseDomain maxDepth visited item sent).2 =
        .ok (node, items) → ∀ next ∈ items, Inside env confirmed baseUrl next.1 := by
  obtain ⟨url, depth, parent⟩ := item
  have asked := fetch_allConfirmed answers "GET" direct inside before
  have origin : ∀ value, (fetch env answers "GET" url sent).2 = .response value →
      answers sent.length = .response value := fun value => answer_of_fetch answers "GET" url sent
  unfold visit
  dsimp only at asked ⊢
  generalize fetch env answers "GET" url sent = one at asked origin ⊢
  obtain ⟨after, result⟩ := one
  have silent : ∀ next ∈ ([] : List QueueItem), Inside env confirmed baseUrl next.1 :=
    fun _ member => absurd member List.not_mem_nil
  cases result with
  | raised message => exact ⟨asked, fun node items wrong => nomatch wrong⟩
  | error message =>
    refine ⟨asked, fun node items turn => ?_⟩
    cases turn
    exact silent
  | response value =>
    dsimp only
    cases page : htmlView? (.response value) with
    | none =>
      refine ⟨asked, fun node items turn => ?_⟩
      cases turn
      exact silent
    | some view =>
      dsimp only
      cases reads : env.parseHtml view.text with
      | error message => exact ⟨asked, fun node items wrong => nomatch wrong⟩
      | ok document =>
        dsimp only
        split
        · cases found : followed env baseDomain url visited document.links with
          | none => exact ⟨asked, fun node items wrong => nomatch wrong⟩
          | some urls =>
            refine ⟨asked, fun node items turn next member => ?_⟩
            cases turn
            obtain ⟨link, place, rfl⟩ := List.mem_map.mp member
            obtain ⟨href, listed, joined, joins, rfl, netloc⟩ := of_mem_followed found place
            have same := netloc.trans based.symm
            exact ⟨same, links sent.length value view document (origin value rfl) page reads
              href listed url joined inside joins same⟩
        · refine ⟨asked, fun node items turn => ?_⟩
          cases turn
          exact silent

/-- **The crawler stays inside.** -/
theorem crawl_allConfirmed {baseDomain : String} {maxPages maxDepth : Nat}
    (direct : ¬ Redirected env baseUrl) (based : netlocOf env baseUrl = some baseDomain)
    (links : LinksStayInside env confirmed baseUrl answers) (queue : List QueueItem)
    (visited : List String) (pages : List CrawledPage) (sent : List Request)
    (queued : ∀ item ∈ queue, Inside env confirmed baseUrl item.1)
    (before : AllConfirmed env confirmed sent) :
    AllConfirmed env confirmed
      (crawl env answers baseDomain maxPages maxDepth queue visited pages sent).1 := by
  induction queue, visited, pages, sent using
    crawl.induct env answers baseDomain maxPages maxDepth with
  | case1 visited pages sent =>
    rw [crawl]
    exact before
  | case2 visited pages sent item rest full =>
    rw [crawl, dif_pos full]
    exact before
  | case3 visited pages sent item rest room seen ih =>
    rw [crawl, dif_neg room, if_pos seen]
    exact ih (fun other member => queued other (List.mem_cons_of_mem _ member)) before
  | case4 visited pages sent item rest room new after message turn =>
    have stays := visit_inside answers maxDepth (visited ++ [item.1]) direct based
      links (queued item List.mem_cons_self) before
    rw [crawl, dif_neg room, if_neg new]
    rw [turn] at stays ⊢
    exact stays.1
  | case5 visited pages sent item rest room new after node items turn ih =>
    have stays := visit_inside answers maxDepth (visited ++ [item.1]) direct based
      links (queued item List.mem_cons_self) before
    rw [crawl, dif_neg room, if_neg new]
    rw [turn] at stays ⊢
    refine ih (fun other member => ?_) stays.1
    rcases List.mem_append.mp member with early | late
    · exact queued other (List.mem_cons_of_mem _ early)
    · exact stays.2 node items rfl other late

/-! ### The scan -/

theorem Inside.split {url : String} (inside : Inside env confirmed baseUrl url) :
    ∃ parsed, env.urlsplit url = some parsed := by
  obtain ⟨known, -, same⟩ := List.any_eq_true.mp inside.2
  have read := (Bool.and_eq_true_iff.mp same).1
  unfold originOf at read
  rw [Option.isSome_map] at read
  exact Option.isSome_iff_exists.mp read

theorem inside_of_joined (joins : JoinsPaths env) {parsed : UrlParts}
    (split : env.urlsplit baseUrl = some parsed) (web : parsed.scheme ∈ ["http", "https"])
    (inside : Inside env confirmed baseUrl baseUrl) {path url : String}
    (listed : path ∈ safeFilesList) (joined : env.urljoin baseUrl path = some url) :
    Inside env confirmed baseUrl url := by
  obtain ⟨other, reads, scheme, netloc⟩ := joins baseUrl parsed path url split web listed joined
  have origins : originOf env url = originOf env baseUrl := by
    unfold originOf
    rw [reads, split, Option.map_some, Option.map_some, scheme, netloc]
  constructor
  · unfold netlocOf
    rw [reads, split, Option.map_some, Option.map_some, netloc]
  · obtain ⟨known, member, same⟩ := List.any_eq_true.mp inside.2
    exact List.any_eq_true.mpr ⟨known, member, sameOrigin_of_eq env origins same⟩

/-- If every link stays inside, exploring a target asks confirmed hosts only. -/
theorem exploreTarget_allConfirmed (joins : JoinsPaths env)
    (direct : ¬ Redirected env baseUrl) (inside : Inside env confirmed baseUrl baseUrl)
    {parsed : UrlParts} (split : env.urlsplit baseUrl = some parsed)
    (web : parsed.scheme ∈ ["http", "https"])
    (links : LinksStayInside env confirmed baseUrl answers) (profile : String)
    (settings : AppSettings) {sent : List Request} (before : AllConfirmed env confirmed sent) :
    AllConfirmed env confirmed
      (exploreTarget env answers profile baseUrl settings sent).1 := by
  have files := checkExposedFiles_allConfirmed answers direct
    (fun path listed url joined => inside_of_joined joins split web inside listed joined) before
  have based : netlocOf env baseUrl =
      some (((env.urlsplit baseUrl).map UrlParts.netloc).getD "") := by
    unfold netlocOf
    rw [split]
    rfl
  have crawled := fun maxPages maxDepth => fun later : List Request =>
    @crawl_allConfirmed env confirmed baseUrl answers _ maxPages maxDepth direct based links
      [(baseUrl, 0, none)] [] [] later fun item member => by
        rw [List.mem_singleton.mp member]
        exact inside
  unfold exploreTarget
  dsimp only
  generalize checkExposedFiles env answers baseUrl safeFilesList sent = one at files ⊢
  obtain ⟨after, result⟩ := one
  cases result with
  | error message => exact files
  | ok exposed =>
    dsimp only
    have later := crawled
      (if profile == "Full Safe Scan" then settings.maxPagesFull else settings.maxPagesStandard)
      (if profile == "Full Safe Scan" then settings.maxDepthFull else settings.maxDepthStandard)
      after files
    generalize crawl env answers _ _ _ [(baseUrl, 0, none)] [] [] after = two at later ⊢
    obtain ⟨last, pages⟩ := two
    cases pages <;> exact later

variable {generateReport : ScanDatabase → Nat → String}

/-- **A scan of a target stays inside.** -/
theorem scanTarget_allConfirmed (joins : JoinsPaths env)
    (direct : ¬ Redirected env baseUrl) (inside : Inside env confirmed baseUrl baseUrl)
    (served : ∀ parsed, env.urlsplit baseUrl = some parsed →
      parsed.scheme ∉ ["http", "https"] → ∀ value, answers 0 ≠ .response value)
    (db : ScanDatabase) (scanId targetId : Nat) (scan : Scan) (targetName : String)
    (settings : AppSettings) (now : Instant)
    (links : isActive scan.profile = true →
      LinksStayInside env confirmed baseUrl answers) :
    AllConfirmed env confirmed (scanTarget env generateReport db scanId targetId
      scan targetName baseUrl settings answers now).sent := by
  have asked : AllConfirmed env confirmed (fetch env answers "GET" baseUrl []).1 :=
    fetch_allConfirmed answers "GET" direct inside fun _ member => absurd member List.not_mem_nil
  have answered : ∀ value, (fetch env answers "GET" baseUrl []).2 = .response value →
      answers 0 = .response value := fun value => answer_of_fetch answers "GET" baseUrl []
  unfold scanTarget
  generalize fetch env answers "GET" baseUrl [] = one at asked answered ⊢
  obtain ⟨sent, result⟩ := one
  cases result with
  | raised message => exact asked
  | error message => exact asked
  | response value =>
    dsimp only
    cases passiveFindings env baseUrl ((sent.head?.map Request.url).getD "") value with
    | error message => exact asked
    | ok passive =>
    dsimp only
    split
    · rename_i active
      obtain ⟨parsed, split⟩ := inside.split
      have web : parsed.scheme ∈ ["http", "https"] := by
        by_contra other
        exact served parsed split other value (answered value rfl)
      have explored := exploreTarget_allConfirmed answers joins direct inside split web
        (links active) scan.profile settings asked
      generalize exploreTarget env answers scan.profile baseUrl settings sent = two
        at explored ⊢
      obtain ⟨after, found⟩ := two
      cases found <;> exact explored
    · exact asked

/-- Every request is one of the scan of a target that is found. -/
theorem finds_of_sent {db : ScanDatabase} {scanId : Nat} {now : Instant} {request : Request}
    (member : request ∈
      (asyncRunScan env generateReport db scanId answers now).sent) :
    ∃ scan target url, Finds db scanId scan target url ∧ ∃ started settings,
      (asyncRunScan env generateReport db scanId answers now).sent =
        (scanTarget env generateReport started scanId scan.targetId scan target.name url
          settings answers now).sent := by
  unfold asyncRunScan at member ⊢
  cases found : db.scans.get? scanId with
  | none =>
    rw [found] at member
    cases member
  | some scan =>
    rw [found] at member
    dsimp only at member ⊢
    cases located : db.targets.get? scan.targetId with
    | none =>
      rw [located] at member
      cases member
    | some target =>
      rw [located] at member
      dsimp only [ScanDatabase.notify] at member ⊢
      cases settled : db.settings with
      | none =>
        rw [settled] at member
        cases based : target.baseUrl <;> rw [based] at member <;> cases member
      | some settings =>
        rw [settled] at member
        cases based : target.baseUrl with
        | none =>
          rw [based] at member
          cases member
        | some url =>
          have present : db.settings.isSome = true := by
            rw [settled]
            rfl
          exact ⟨scan, target, url, ⟨found, located, based, present⟩, _, settings, rfl⟩

end Requests

/-! ## The ledger along a run -/

section Targets

variable {env : ScanRuntime} {generateReport : ScanDatabase → Nat → String}

theorem targets_finishScan (db : ScanDatabase) (scanId targetId : Nat) (targetName : String)
    (settings : AppSettings) (findings : List FindingData) (now : Instant) :
    (finishScan env generateReport db scanId targetId targetName settings findings
      now).targets = db.targets := by
  have saved : (findings.foldl (ScanDatabase.addFinding env scanId targetId)
      db).targets = db.targets := by
    induction findings generalizing db with
    | nil => rfl
    | cons data rest ih =>
      refine (ih _).trans ?_
      unfold ScanDatabase.addFinding
      dsimp only
      split
      · rfl
      · split <;> rfl
  have compared : ∀ rows : ScanDatabase,
      (rows.addDiff scanId targetId findings).targets = rows.targets := by
    intro rows
    unfold ScanDatabase.addDiff
    split <;> rfl
  have reported : ∀ rows : ScanDatabase, (rows.addReport generateReport scanId targetId
      targetName settings findings.length).targets = rows.targets := by
    intro rows
    unfold ScanDatabase.addReport
    split <;> rfl
  unfold finishScan
  dsimp only
  split <;>
  · simp only [ScanDatabase.notify, reported, compared]
    exact saved

/-- A scan writes no target. -/
theorem targets_asyncRunScan (db : ScanDatabase) (scanId : Nat) (answers : Nat → Answer)
    (now : Instant) :
    (asyncRunScan env generateReport db scanId answers now).db.targets =
      db.targets := by
  have paged : ∀ (pages : List CrawledPage) (targetId : Nat) (rows : ScanDatabase),
      (pages.foldl (ScanDatabase.addPage scanId targetId) rows).targets = rows.targets := by
    intro pages targetId
    induction pages with
    | nil => exact fun _ => rfl
    | cons page rest ih =>
      intro rows
      refine (ih _).trans ?_
      unfold ScanDatabase.addPage
      dsimp only
      split
      · split <;> rfl
      · rfl
  unfold asyncRunScan
  cases db.scans.get? scanId with
  | none => rfl
  | some scan =>
    dsimp only
    split
    · rfl
    · split
      · rfl
      · rfl
      · unfold scanTarget
        split
        · rfl
        · rfl
        · dsimp only
          split
          · rfl
          · split
            · split
              · rfl
              · dsimp only
                rw [targets_finishScan, paged]
                rfl
            · dsimp only
              rw [targets_finishScan]
              rfl

end Targets

/-- What the ledger tells of a target: it is confirmed unless its confirmation was taken back, and
the origin of its base URL is that of a confirmed one unless it was set without. -/
structure Ledger.Sound (env : ScanRuntime) (ledger : Ledger) : Prop where
  flags : ledger.db.targets.Each fun key target =>
    key ∉ ledger.withdrawn → target.authorizationConfirmed = some true
  bases : ledger.db.targets.Each fun key target =>
    key ∉ ledger.unconfirmed → ∀ url, target.baseUrl = some url →
      confirmedOrigin env ledger.confirmed url = true

section Steps

variable {env : ScanRuntime} {generateReport : ScanDatabase → Nat → String}

theorem confirmedOrigin_append {earlier : List String} (later : List String) {url : String}
    (known : confirmedOrigin env earlier url = true) :
    confirmedOrigin env (later ++ earlier) url = true := by
  unfold confirmedOrigin at known ⊢
  rw [List.any_append, known, Bool.or_true]

theorem mem_filter_ne_iff {listed : List Nat} {key other : Nat} :
    key ∈ listed.filter (· != other) ↔ key ∈ listed ∧ key ≠ other := by
  rw [List.mem_filter, bne_iff_ne]

theorem confirmedOrigin_of_mem {confirmed : List String} {url domain : String}
    (read : domainOf env url = some domain) (member : url ∈ confirmed) :
    confirmedOrigin env confirmed url = true := by
  obtain ⟨parsed, split, -⟩ := Option.map_eq_some_iff.mp read
  exact List.any_eq_true.mpr ⟨url, member, sameOrigin_self env (by rw [split]; rfl)⟩

theorem sound_createTarget {ledger : Ledger} (sound : ledger.Sound env) (payload : TargetCreate) :
    (ledger.step env generateReport (.createTarget payload)).Sound env := by
  rw [Ledger.step, createTarget]
  by_cases agreed : payload.authorizationConfirmed = true
  · rw [if_pos agreed]
    cases read : domainOf env payload.baseUrl with
    | none => exact sound
    | some domain =>
      dsimp only
      rw [if_pos agreed]
      refine ⟨sound.flags.insert fun _ => congrArg some agreed, Table.Each.insert ?_ ?_⟩
      · exact sound.bases.mono fun key target known outside url based =>
          confirmedOrigin_append [payload.baseUrl] (known outside url based)
      · intro _ url based
        rw [← Option.some.inj based]
        exact confirmedOrigin_of_mem read List.mem_cons_self
  · rw [if_neg agreed]
    exact sound

theorem flag_after_update {withdrawn : List Nat} {targetId : Nat} {payload : TargetUpdate}
    {target : Target} (before : targetId ∉ withdrawn → target.authorizationConfirmed = some true)
    (outside : targetId ∉ withdrawnAfter withdrawn targetId payload) :
    payload.authorizationConfirmed.getD target.authorizationConfirmed = some true := by
  unfold withdrawnAfter at outside
  cases named : payload.authorizationConfirmed with
  | none =>
    rw [named] at outside
    exact before outside
  | some answer =>
    rw [named] at outside
    dsimp only at outside
    split at outside
    · assumption
    · exact absurd List.mem_cons_self outside

theorem withdrawnAfter_of_ne {withdrawn : List Nat} {targetId key : Nat} {payload : TargetUpdate}
    (other : key ≠ targetId) (outside : key ∉ withdrawnAfter withdrawn targetId payload) :
    key ∉ withdrawn := by
  intro member
  refine outside ?_
  unfold withdrawnAfter
  cases payload.authorizationConfirmed with
  | none => exact member
  | some answer =>
    dsimp only
    split
    · exact mem_filter_ne_iff.mpr ⟨member, other⟩
    · exact List.mem_cons_of_mem _ member

theorem base_after_update {confirmed : List String} {unconfirmed : List Nat} {targetId : Nat}
    {payload : TargetUpdate} {target : Target}
    (before : targetId ∉ unconfirmed → ∀ url, target.baseUrl = some url →
      confirmedOrigin env confirmed url = true)
    (outside : targetId ∉ unconfirmedAfter env confirmed unconfirmed targetId payload)
    {url : String} (based : payload.baseUrl.getD target.baseUrl = some url) :
    confirmedOrigin env confirmed url = true := by
  unfold unconfirmedAfter at outside
  cases named : payload.baseUrl with
  | none =>
    rw [named] at outside based
    exact before outside url based
  | some answer =>
    rw [named] at outside based
    cases answer with
    | none => cases based
    | some given =>
      obtain rfl := Option.some.inj based
      dsimp only at outside
      split at outside
      · assumption
      · exact absurd List.mem_cons_self outside

theorem unconfirmedAfter_of_ne {confirmed : List String} {unconfirmed : List Nat}
    {targetId key : Nat} {payload : TargetUpdate} (other : key ≠ targetId)
    (outside : key ∉ unconfirmedAfter env confirmed unconfirmed targetId payload) :
    key ∉ unconfirmed := by
  intro member
  refine outside ?_
  unfold unconfirmedAfter
  split
  · exact member
  · exact mem_filter_ne_iff.mpr ⟨member, other⟩
  · split
    · exact mem_filter_ne_iff.mpr ⟨member, other⟩
    · exact List.mem_cons_of_mem _ member

theorem changeTarget_eq_some {target changed : Target} {payload : TargetUpdate}
    (changes : changeTarget env target payload = some changed) :
    changed.baseUrl = payload.baseUrl.getD target.baseUrl ∧
      changed.authorizationConfirmed =
        payload.authorizationConfirmed.getD target.authorizationConfirmed := by
  unfold changeTarget at changes
  cases named : payload.baseUrl with
  | none =>
    rw [named] at changes
    cases changes
    exact ⟨rfl, rfl⟩
  | some answer =>
    rw [named] at changes
    cases answer with
    | none =>
      cases changes
      exact ⟨rfl, rfl⟩
    | some url =>
      obtain ⟨domain, -, result⟩ := Option.bind_eq_some_iff.mp changes
      cases result
      exact ⟨rfl, rfl⟩

/-- An update of a target keeps the ledger sound. -/
theorem sound_updateTarget {ledger : Ledger} (sound : ledger.Sound env) (targetId : Nat)
    (payload : TargetUpdate) :
    (ledger.step env generateReport (.updateTarget targetId payload)).Sound env := by
  rw [Ledger.step, updateTarget]
  cases found : ledger.db.targets.get? targetId with
  | none => exact sound
  | some target =>
    dsimp only
    cases changes : changeTarget env target payload with
    | none => exact sound
    | some changed =>
      obtain ⟨base, flag⟩ := changeTarget_eq_some changes
      constructor <;> intro key row stored outside <;>
        rw [Table.get?_modify] at stored <;> split at stored
      · rename_i here
        rw [here] at stored outside
        rw [found] at stored
        obtain rfl := Option.some.inj stored
        rw [flag]
        exact flag_after_update (sound.flags targetId target found) outside
      · rename_i other
        exact sound.flags key row stored (withdrawnAfter_of_ne other outside)
      · rename_i here
        rw [here] at stored outside
        rw [found] at stored
        obtain rfl := Option.some.inj stored
        intro url based
        rw [base] at based
        exact base_after_update (fun before url based => confirmedOrigin_append _
          (sound.bases targetId target found before url based)) outside based
      · rename_i other
        intro url based
        exact confirmedOrigin_append _
          (sound.bases key row stored (unconfirmedAfter_of_ne other outside) url based)

/-- Every event keeps the ledger sound. -/
theorem sound_step {ledger : Ledger} (sound : ledger.Sound env) (event : ScanEvent) :
    (ledger.step env generateReport event).Sound env := by
  cases event with
  | createTarget payload => exact sound_createTarget sound payload
  | updateTarget targetId payload => exact sound_updateTarget sound targetId payload
  | startScan targetId profile =>
    rw [Ledger.step, startScan]
    cases ledger.db.targets.get? targetId with
    | none => exact sound
    | some target =>
      dsimp only
      split
      · exact sound
      · rename_i wrong
        split at wrong
        · cases wrong
          exact ⟨sound.flags, sound.bases⟩
        · cases wrong
  | runScan scanId answers now =>
    have kept := @targets_asyncRunScan env generateReport ledger.db scanId answers now
    constructor
    · show (asyncRunScan env generateReport ledger.db scanId answers
        now).db.targets.Each _
      rw [kept]
      exact sound.flags
    · show (asyncRunScan env generateReport ledger.db scanId answers
        now).db.targets.Each _
      rw [kept]
      exact sound.bases

/-- **A scan that meets none of the gaps stays inside.** -/
theorem scanInside_of_guarded {ledger : Ledger} (sound : ledger.Sound env)
    (joins : JoinsPaths env) {scanId : Nat} {answers : Nat → Answer} (now : Instant)
    (served : Served env ledger scanId answers) (guarded : Guarded env ledger scanId answers) :
    ScanInside env generateReport ledger scanId answers now := by
  intro request member
  obtain ⟨scan, target, baseUrl, finds, started, settings, sent⟩ := finds_of_sent answers member
  obtain ⟨given, set, direct, links⟩ := guarded scan target baseUrl finds
  have known := sound.bases _ target finds.target_found set baseUrl finds.baseUrl_eq
  refine ⟨⟨scan, target, finds.scan_found, finds.target_found,
    sound.flags _ target finds.target_found given⟩, ?_⟩
  rw [sent] at member
  exact List.any_eq_true.mp (scanTarget_allConfirmed answers joins direct ⟨rfl, known⟩
    (fun parsed => served scan target baseUrl parsed finds) started scanId scan.targetId scan
    target.name settings now links request member)

end Steps

/-- **Scans stay inside what was authorised** in every run none of whose scans meets a gap. -/
theorem scans_stay_inside (env : ScanRuntime) (generateReport : ScanDatabase → Nat → String)
    (joins : JoinsPaths env) (db : ScanDatabase)
    (untouched : db.targets = Table.empty) (events : List ScanEvent)
    (served : ∀ move ∈ trace (Ledger.step env generateReport) (Ledger.start db)
      events, ∀ scanId answers now, move.input = .runScan scanId answers now →
        Served env move.before scanId answers)
    (guarded : ∀ move ∈ trace (Ledger.step env generateReport) (Ledger.start db)
      events, ∀ scanId answers now, move.input = .runScan scanId answers now →
        Guarded env move.before scanId answers) :
    ∀ move ∈ trace (Ledger.step env generateReport) (Ledger.start db) events,
      StaysInside env generateReport move := by
  have start : (Ledger.start db).Sound env := by
    constructor
    · show db.targets.Each _
      rw [untouched]
      exact Table.Each.empty
    · show db.targets.Each _
      rw [untouched]
      exact Table.Each.empty
  intro move member scanId answers now runs
  have sound := (invariant_along_trace (Ledger.step env generateReport)
    (Ledger.Sound env) (fun _ => True) (fun ledger event sound _ => sound_step sound event)
    start (fun _ _ => trivial) move member).1
  exact scanInside_of_guarded sound joins now (served move member scanId answers now runs)
    (guarded move member scanId answers now runs)

section Shop

/-- A runtime for the pages of one site. -/
def siteRuntime : ScanRuntime where
  py := { foldTable := fun c => [c], parseInt := fun _ => none, repr := fun _ => "",
              floatText := fun _ => "0.0" }
  lower text := String.ofList (text.toList.map Char.toLower)
  urlsplit url :=
    if "https://shop.test".toList.isPrefixOf url.toList then
      some ⟨"https", "shop.test", String.ofList (url.toList.drop 17), "", ""⟩
    else none
  urlunsplit parts := parts.scheme ++ "://" ++ parts.netloc ++ parts.path
  hostname := some
  port _ := some none
  urljoin _ url := some (if url.toList.head? = some '/' then "https://shop.test" ++ url else url)
  localhostScanHost := none
  parseHtml _ := .ok ⟨none, ["/login"], [], [], []⟩
  remediation _ := ("", "")

/-- No rows but the settings. -/
def emptyScans : ScanDatabase where
  targets := Table.empty
  scans := Table.empty
  findings := Table.empty
  evidence := Table.empty
  crawlNodes := Table.empty
  postureDiffs := Table.empty
  reports := Table.empty
  notifications := []
  settings := some ⟨10, 50, 2, 5, false⟩

def shopPage : Answer :=
  .response ⟨200, [.plain "content-type" "text/html" (by decide)], "<a href=/login>"⟩

theorem siteRuntime_split {url : String} {parsed : UrlParts}
    (split : siteRuntime.urlsplit url = some parsed) :
    parsed.scheme = "https" ∧ parsed.netloc = "shop.test" := by
  unfold siteRuntime at split
  dsimp only at split
  split at split
  · cases split
    exact ⟨rfl, rfl⟩
  · cases split

theorem siteRuntime_joins : JoinsPaths siteRuntime := by
  intro baseUrl parsed path joined split web listed joins
  have pages : ∀ path ∈ safeFilesList,
      (siteRuntime.urlsplit ((siteRuntime.urljoin "" path).getD "")).isSome = true := by
    decide +kernel
  have page := pages path listed
  rw [show siteRuntime.urljoin "" path = some joined from joins] at page
  obtain ⟨other, reads⟩ := Option.isSome_iff_exists.mp page
  obtain ⟨scheme, netloc⟩ := siteRuntime_split split
  obtain ⟨scheme', netloc'⟩ := siteRuntime_split reads
  exact ⟨other, reads, scheme'.trans scheme.symm, netloc'.trans netloc.symm⟩

theorem siteRuntime_served (ledger : Ledger) (scanId : Nat) (answers : Nat → Answer) :
    Served siteRuntime ledger scanId answers := by
  intro scan target baseUrl parsed _ split other
  rw [(siteRuntime_split split).1] at other
  exact absurd (by decide) other

/-- A target is created with its confirmation and a scan of it is queued. -/
def queuedScan (profile : String) : List ScanEvent :=
  [.createTarget ⟨"Shop", "https://shop.test/", "demo", true⟩, .startScan 1 profile]

/-- The confirmation is taken back while a scan is queued. -/
def withdrawnScan : List ScanEvent :=
  queuedScan "Passive Scan" ++ [.updateTarget 1 ⟨none, none, none, some (some false)⟩]

theorem withdrawn_scan_sends :
    ¬ ∀ (env : ScanRuntime) (generateReport : ScanDatabase → Nat → String),
      JoinsPaths env → ∀ (db : ScanDatabase), db.targets = Table.empty →
        ∀ events : List ScanEvent,
          (∀ move ∈ trace (Ledger.step env generateReport) (Ledger.start db)
            events, ∀ scanId answers now, move.input = .runScan scanId answers now →
              Served env move.before scanId answers) →
          ∀ move ∈ trace (Ledger.step env generateReport) (Ledger.start db)
            events, StaysInside env generateReport move := by
  intro always
  have inside := always siteRuntime (fun _ _ => "") siteRuntime_joins emptyScans rfl
    (withdrawnScan ++ [.runScan 1 (fun _ => shopPage) 0])
    (fun move _ scanId answers _ _ => siteRuntime_served move.before scanId answers)
    _ (mem_trace_concat _ _ _ _) 1 (fun _ => shopPage) 0 rfl
  obtain ⟨⟨scan, target, -, found, given⟩, -⟩ :=
    inside ⟨"GET", "https://shop.test/", none⟩ (by decide +kernel)
  have withdrawn : ∀ row ∈ (final (Ledger.step siteRuntime fun _ _ => "")
      (Ledger.start emptyScans) withdrawnScan).db.targets.rows,
        row.2.authorizationConfirmed ≠ some true := by decide +kernel
  exact withdrawn _ ((Table.get?_eq_some_iff _ _ _).mp found) given

theorem full_scan_stays_inside :
    (trace (Ledger.step siteRuntime fun _ _ => "") (Ledger.start emptyScans)
      (queuedScan "Full Safe Scan" ++ [.runScan 1 (fun _ => shopPage) 0])).Forall
        (StaysInside siteRuntime fun _ _ => "") := by
  refine List.forall_iff_forall_mem.mpr (scans_stay_inside siteRuntime (fun _ _ => "")
    siteRuntime_joins emptyScans rfl _ (fun move _ scanId answers _ _ =>
      siteRuntime_served move.before scanId answers) ?_)
  intro move member scanId answers now runs
  rw [trace_concat] at member
  rcases List.mem_append.mp member with early | last
  · have queued := input_mem_of_mem_trace _ early
    rw [runs] at queued
    simp [queuedScan] at queued
  · rw [List.mem_singleton.mp last] at runs ⊢
    cases runs
    intro scan target baseUrl finds
    have based : ∀ row ∈ (final (Ledger.step siteRuntime fun _ _ => "")
        (Ledger.start emptyScans) (queuedScan "Full Safe Scan")).db.targets.rows,
          row.2.baseUrl = some "https://shop.test/" := by decide +kernel
    have url := based _ ((Table.get?_eq_some_iff _ _ _).mp finds.target_found)
    rw [Option.some.inj (finds.baseUrl_eq.symm.trans url)]
    refine ⟨List.not_mem_nil, List.not_mem_nil, ?_, ?_⟩
    · rintro ⟨_, _, stand, -⟩
      cases stand
    · intro _ n value view document answered page reads href listed current joined _ joins _
      cases reads
      rw [List.mem_singleton.mp listed] at joins
      obtain rfl := Option.some.inj joins
      show confirmedOrigin siteRuntime ["https://shop.test/"] _ = true
      decide +kernel

end Shop

end ThreatScope.Scanner
