import ThreatScope.Scanner.Checks

/-!
# Targets and scans

The handlers of targets and scans, and `async_run_scan`, which runs a queued scan at some later
time: it asks the server, records what it saw and scores it.
-/

set_option autoImplicit false

namespace ThreatScope.Scanner

open Library AccessControl

/-! ## Scores -/

/-- `SEVERITY_WEIGHTS`. -/
def severityWeight : Severity → Nat
  | .critical => 10
  | .high => 8
  | .medium => 5
  | .low => 2
  | .info => 0

/-- `round(value, 1)`, to the even digit from the middle. -/
def roundTenth (value : Rat) : Rat :=
  let tenfold := value * 10
  let below := tenfold.floor
  let rest := tenfold - below
  (if rest < 1 / 2 then below
    else if 1 / 2 < rest then below + 1
    else if below % 2 = 0 then below else below + 1 : Int) / 10

def calculateRiskScore (findings : List FindingData) : Rat :=
  if findings = [] then 0
  else
    let weights := findings.map fun finding => severityWeight finding.severity
    let average : Rat := (weights.sum : Rat) / findings.length
    min (roundTenth ((weights.foldl max 0 : Nat) + average / 10)) 10

/-- The penalty of a severity. -/
def severityPenalty : Severity → Int
  | .critical => 30
  | .high => 20
  | .medium => 10
  | .low => 5
  | .info => 0

section Posture

variable (env : ScanRuntime)

/-- The scores after the penalty of a finding. -/
def penalise (scores : PostureScores) (finding : FindingData) : PostureScores :=
  let category := env.lower finding.category
  let title := env.lower finding.title
  let penalty := severityPenalty finding.severity
  if Text.contains category "tls" || Text.contains category "https" ||
      Text.contains category "mixed content" || Text.contains title "tls" ||
      Text.contains title "https" then
    { scores with transportSecurity := scores.transportSecurity - penalty }
  else if Text.contains category "header" || Text.contains category "cors" ||
      Text.contains title "header" then
    { scores with browserDefense := scores.browserDefense - penalty }
  else if Text.contains category "cookie" || Text.contains category "session" ||
      Text.contains title "cookie" then
    { scores with sessionSafety := scores.sessionSafety - penalty }
  else if Text.contains category "exposed" || Text.contains category "disclosure" ||
      Text.contains category "file" || Text.contains title "directory" then
    { scores with exposureHygiene := scores.exposureHygiene - penalty }
  else if Text.contains category "auth" || Text.contains category "login" ||
      Text.contains category "password" || Text.contains title "form" then
    { scores with authenticationSurface := scores.authenticationSurface - penalty }
  else { scores with exposureHygiene := scores.exposureHygiene - penalty / 2 }

def calculatePostureScores (findings : List FindingData) : PostureScores :=
  let scores := findings.foldl (penalise env) ⟨0, 100, 100, 100, 100, 100⟩
  let transport := max scores.transportSecurity 0
  let browser := max scores.browserDefense 0
  let session := max scores.sessionSafety 0
  let exposure := max scores.exposureHygiene 0
  let authentication := max scores.authenticationSurface 0
  ⟨(transport + browser + session + exposure + authentication) / 5, transport, browser, session,
    exposure, authentication⟩

end Posture

/-! ## Targets -/

/-- `TargetCreate`. -/
structure TargetCreate where
  name : String
  baseUrl : String
  environment : String
  authorizationConfirmed : Bool

/-- `TargetUpdate`: the outer option of a field is none when the request leaves it out. -/
structure TargetUpdate where
  name : Option String
  baseUrl : Option (Option String)
  environment : Option (Option String)
  authorizationConfirmed : Option (Option Bool)

/-- An `HTTPException`. -/
structure ScanFailure where
  status : Nat
  detail : String

section Handlers

variable (env : ScanRuntime)

/-- `urlparse(base_url).netloc or base_url`, none when it raises. -/
def domainOf (baseUrl : String) : Option String :=
  (env.urlsplit baseUrl).map fun parsed =>
    if parsed.netloc = "" then baseUrl else parsed.netloc

def createTarget (db : ScanDatabase) (payload : TargetCreate) :
    Except ScanFailure ScanDatabase :=
  if payload.authorizationConfirmed then
    match domainOf env payload.baseUrl with
    | none => .error ⟨500, "ValueError"⟩
    | some domain =>
      .ok { db with
        targets := db.targets.insert
          ⟨payload.name, some payload.baseUrl, some domain, some payload.environment,
            some payload.authorizationConfirmed⟩ }
  else .error ⟨400, "Must confirm authorization"⟩

/-- The row that `update_target` leaves, none when reading the URL raises. -/
def changeTarget (target : Target) (payload : TargetUpdate) : Option Target := do
  let domain ← match payload.baseUrl with
    | none => some target.domain
    | some none => some none
    | some (some baseUrl) => (domainOf env baseUrl).map some
  return { name := payload.name.getD target.name
           baseUrl := payload.baseUrl.getD target.baseUrl
           domain := domain
           environment := payload.environment.getD target.environment
           authorizationConfirmed :=
             payload.authorizationConfirmed.getD target.authorizationConfirmed }

def updateTarget (db : ScanDatabase) (targetId : Nat) (payload : TargetUpdate) :
    Except ScanFailure ScanDatabase :=
  match db.targets.get? targetId with
  | none => .error ⟨404, "Target not found"⟩
  | some target =>
    match changeTarget env target payload with
    | none => .error ⟨500, "ValueError"⟩
    | some changed =>
      .ok { db with targets := db.targets.modify targetId fun _ => changed }

end Handlers

/-! ## Scans -/

/-- A scan that is queued. -/
def newScan (targetId : Nat) (profile : String) : Scan :=
  ⟨targetId, profile, .queued, none, 0, 0, ⟨100, 100, 100, 100, 100, 100⟩, none⟩

def startScan (db : ScanDatabase) (targetId : Nat) (profile : String) :
    Except ScanFailure ScanDatabase :=
  match db.targets.get? targetId with
  | none => .error ⟨404, "Target not found"⟩
  | some target =>
    if target.authorizationConfirmed = some true then
      .ok { db with scans := db.scans.insert (newScan targetId profile) }
    else .error ⟨400, "Target authorization not confirmed"⟩

section Run

variable (env : ScanRuntime) (generateReport : ScanDatabase → Nat → String)

namespace ScanDatabase

/-- A notification about a scan. -/
def notify (db : ScanDatabase) (title message kind : String) (scanId : Nat) :
    ScanDatabase :=
  { db with
    notifications := db.notifications ++ [⟨title, message, kind, "scan", scanId⟩] }

/-- The end of a scan that failed. -/
def failScan (db : ScanDatabase) (scanId : Nat) (message notice : String)
    (now : Instant) : ScanDatabase :=
  { db with
    scans := db.scans.modify scanId fun scan =>
      { scan with status := .failed, errorMessage := some message, completedAt := some now }
    }.notify "Scan Failed" notice "danger" scanId

/-- The handler of an exception: what was not committed is rolled back. -/
def crashScan (db : ScanDatabase) (scanId : Nat) (message : String) (now : Instant) :
    ScanDatabase :=
  db.failScan scanId message
    ("Scan #" ++ toString scanId ++ " failed to complete: " ++ Text.truncate 100 message) now

/-- The snapshot of the headers of the first response. -/
def addHeaderEvidence (db : ScanDatabase) (scanId targetId : Nat) (baseUrl : String)
    (headers : List Header) : ScanDatabase :=
  { db with
    evidence := db.evidence.insert
      ⟨scanId, targetId, "header_snapshot", "Base URL Response Headers",
        headerText env headers, baseUrl⟩ }

/-- A page of the crawl, with a snippet when it asks for a password. -/
def addPage (scanId targetId : Nat) (db : ScanDatabase) (page : CrawledPage) :
    ScanDatabase :=
  let noted := { db with
    crawlNodes := db.crawlNodes.insert
      ⟨scanId, targetId, page.url, page.path, page.statusCode, page.contentType, page.pageTitle,
        page.depth, page.parentUrl, page.hasForms, page.hasPasswordField, 0⟩ }
  match page.html with
  | some html =>
    if page.hasPasswordField ∧ html ≠ "" then
      { noted with
        evidence := noted.evidence.insert
          ⟨scanId, targetId, "html_snippet", "Login Page Snippet (" ++ page.path ++ ")",
            Text.truncate 2000 html, page.url⟩ }
    else noted
  | none => noted

/-- A finding, counted at the page it is about. -/
def addFinding (scanId targetId : Nat) (db : ScanDatabase) (data : FindingData) :
    ScanDatabase :=
  let remedy := env.remediation data.title
  let added := { db with
    findings := db.findings.insert ⟨scanId, targetId, data, remedy.1, remedy.2⟩ }
  if data.affectedUrl = "" then added
  else
    match added.crawlNodes.first? fun _ node =>
        node.scanId == scanId && node.url == data.affectedUrl with
    | none => added
    | some (key, _) =>
      { added with
        crawlNodes := added.crawlNodes.modify key fun node =>
          { node with findingCount := node.findingCount + 1 } }

/-- The comparison with the last completed scan of the target. -/
def addDiff (db : ScanDatabase) (scanId targetId : Nat) (findings : List FindingData) :
    ScanDatabase :=
  match db.scans.last? fun key scan =>
      scan.targetId == targetId && key < scanId && scan.status == .completed,
    db.scans.get? scanId with
  | some (previousId, previous), some scan =>
    let current := (findings.map fun data => data.title ++ "-" ++ data.affectedUrl).dedup
    let earlier := ((db.findings.rows.filter fun row => row.2.scanId == previousId).map
      fun row => row.2.data.title ++ "-" ++ row.2.data.affectedUrl).dedup
    let newCount := current.countP fun key => !earlier.contains key
    let riskDelta := scan.riskScore - previous.riskScore
    let trend := if 0 < riskDelta then "Posture worsened"
      else if riskDelta < 0 then "Posture improved" else "Posture stable"
    let diff : PostureDiff :=
      { currentScanId := scanId
        previousScanId := previousId
        targetId := targetId
        newFindingsCount := newCount
        resolvedFindingsCount := earlier.countP fun key => !current.contains key
        unchangedFindingsCount := current.countP earlier.contains
        riskScoreDelta := riskDelta
        postureScoreDelta := scan.posture.overall - previous.posture.overall
        summary := if 0 < newCount then trend ++ " (" ++ toString newCount ++ " new issues)"
          else trend }
    { db with postureDiffs := db.postureDiffs.insert diff }
  | _, _ => db

/-- The report of a scan, when the settings ask for one and there is none. -/
def addReport (db : ScanDatabase) (scanId targetId : Nat) (targetName : String)
    (settings : AppSettings) (totalFindings : Nat) : ScanDatabase :=
  if settings.autoGenerateReport ∧ ¬ db.reports.rows.any fun row => row.2.scanId == scanId
  then
    { db with
      reports := db.reports.insert
        ⟨scanId, targetId, "Security Assessment Report - " ++ targetName,
          "Automated assessment resulted in " ++ toString totalFindings ++ " findings.",
          generateReport db scanId⟩
      notifications := db.notifications ++ [⟨"Report Generated",
        "Report #" ++ toString db.reports.nextKey ++ " for scan #" ++ toString scanId ++
          " is ready.", "success", "report", db.reports.nextKey⟩] }
  else db

end ScanDatabase

/-- What a scan records once it has its findings. -/
def finishScan (db : ScanDatabase) (scanId targetId : Nat) (targetName : String)
    (settings : AppSettings) (findings : List FindingData) (now : Instant) : ScanDatabase :=
  let saved := findings.foldl (ScanDatabase.addFinding env scanId targetId) db
  let scored := { saved with scans := saved.scans.modify scanId fun scan =>
    { scan with
      totalFindings := findings.length
      riskScore := calculateRiskScore findings
      posture := calculatePostureScores env findings
      status := .completed
      completedAt := some now } }
  let compared := scored.addDiff scanId targetId findings
  let notified := compared.notify "Scan Completed"
    ("Scan #" ++ toString scanId ++ " finished with " ++ toString findings.length ++
      " findings (Risk: " ++ env.py.floatText (calculateRiskScore findings) ++ ").")
    "success" scanId
  let reported := notified.addReport generateReport scanId targetId targetName settings
    findings.length
  let criticals := findings.countP fun data => data.severity == .critical
  if criticals = 0 then reported
  else reported.notify "Critical Findings Detected"
    ("Found " ++ toString criticals ++ " critical issues in scan #" ++ toString scanId ++ ".")
    "danger" scanId

/-- The findings of the first response. -/
def passiveFindings (baseUrl requestUrl : String) (value : HttpResponse) :
    Except String (List FindingData) := do
  let scheme := ((env.urlsplit requestUrl).map UrlParts.scheme).getD ""
  let mixed ← checkMixedContent env baseUrl value.text
  return checkSecurityHeaders env baseUrl value.headers ++
    checkSetCookieHeaders env baseUrl value.headers scheme ++
    checkCors baseUrl value.headers ++ checkHttps env baseUrl ++ mixed ++
    checkTechnologyDisclosure baseUrl value.headers value.text

/-- Whether a profile goes beyond the first response. -/
def isActive (profile : String) : Bool :=
  profile == "Standard Safe Scan" || profile == "Full Safe Scan"

/-- The files and the crawl of a scan, with the findings of both. -/
def exploreTarget (answers : Nat → Answer) (profile baseUrl : String) (settings : AppSettings)
    (sent : List Request) :
    List Request × Except String (List FindingData × List CrawledPage) :=
  let full := profile == "Full Safe Scan"
  match checkExposedFiles env answers baseUrl safeFilesList sent with
  | (after, .error message) => (after, .error message)
  | (after, .ok exposed) =>
    let baseDomain := ((env.urlsplit baseUrl).map UrlParts.netloc).getD ""
    match crawl env answers baseDomain
        (if full then settings.maxPagesFull else settings.maxPagesStandard)
        (if full then settings.maxDepthFull else settings.maxDepthStandard)
        [(baseUrl, 0, none)] [] [] after with
    | (later, .error message) => (later, .error message)
    | (later, .ok pages) =>
      (later, do
        let surfaces ← pages.mapM fun page =>
          match page.html with
          | some html => if html = "" then .ok [] else checkFormsAndAuth env page.url html
          | none => .ok []
        return (exposed ++ surfaces.flatten, pages))

/-- What a scan leaves: the database and the requests that were sent. -/
structure ScanOutcome where
  db : ScanDatabase
  sent : List Request

/-- The scan of a target with a base URL, from its first request on. -/
def scanTarget (db : ScanDatabase) (scanId targetId : Nat) (scan : Scan)
    (targetName baseUrl : String) (settings : AppSettings) (answers : Nat → Answer)
    (now : Instant) : ScanOutcome :=
  match fetch env answers "GET" baseUrl [] with
  | (sent, .raised message) => ⟨db.crashScan scanId message now, sent⟩
  | (sent, .error message) =>
    ⟨db.failScan scanId message
      ("Scan #" ++ toString scanId ++ " could not reach " ++ baseUrl ++ ": " ++
        Text.truncate 120 message) now, sent⟩
  | (sent, .response value) =>
    let noted := db.addHeaderEvidence env scanId targetId baseUrl value.headers
    let requestUrl := (sent.head?.map Request.url).getD ""
    match passiveFindings env baseUrl requestUrl value with
    | .error message => ⟨noted.crashScan scanId message now, sent⟩
    | .ok passive =>
      if isActive scan.profile then
        match exploreTarget env answers scan.profile baseUrl settings sent with
        | (after, .error message) => ⟨noted.crashScan scanId message now, after⟩
        | (after, .ok (active, pages)) =>
          ⟨finishScan env generateReport
            (pages.foldl (ScanDatabase.addPage scanId targetId) noted) scanId targetId
            targetName settings (passive ++ active) now, after⟩
      else
        ⟨finishScan env generateReport noted scanId targetId targetName settings passive now,
          sent⟩

def asyncRunScan (db : ScanDatabase) (scanId : Nat) (answers : Nat → Answer)
    (now : Instant) : ScanOutcome :=
  match db.scans.get? scanId with
  | none => ⟨db, []⟩
  | some scan =>
    let running := { db with
      scans := db.scans.modify scanId fun scan => { scan with status := .running } }
    match running.targets.get? scan.targetId with
    | none => ⟨running.crashScan scanId "'NoneType' object has no attribute 'base_url'" now, []⟩
    | some target =>
      let started := running.notify "Scan Started"
        ("Scan #" ++ toString scanId ++ " for " ++ target.name ++ " has started.") "info"
        scanId
      match target.baseUrl, started.settings with
      | _, none =>
        ⟨started.crashScan scanId
          "unsupported operand type(s) for /: 'NoneType' and 'int'" now, []⟩
      | none, some _ => ⟨started.crashScan scanId "TypeError" now, []⟩
      | some baseUrl, some settings =>
        scanTarget env generateReport started scanId scan.targetId scan target.name
          baseUrl settings answers now

end Run

end ThreatScope.Scanner
