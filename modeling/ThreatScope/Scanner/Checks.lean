import ThreatScope.AccessControl.Accounts
import ThreatScope.Library.Json

/-!
# Web exposure scans

The rows of targets and scans, the answers of a server and what the scanner reads from the
runtime: the functions of `urllib.parse` and the parts of a page that `BeautifulSoup` finds.
-/

set_option autoImplicit false

namespace ThreatScope.Scanner

open Library AccessControl

/-! ## Answers of a server -/

/-- A `Set-Cookie` header. A value has no separator of attributes or of headers. -/
structure SetCookie where
  name : String
  value : String
  /-- The text after the value, from its semicolon on. -/
  attributes : String
  value_plain : ∀ c ∈ value.toList, c ≠ ';' ∧ c ≠ ','
  attributes_begin : ∀ c ∈ attributes.toList.head?, c = ';'

/-- A header of a response, with its name in lower case. -/
inductive Header where
  | plain (name value : String) (other : name ≠ "set-cookie")
  | setCookie (cookie : SetCookie)

/-- The name of a header. -/
def Header.name : Header → String
  | .plain name _ _ => name
  | .setCookie _ => "set-cookie"

/-- The text of a header. -/
def Header.value : Header → String
  | .plain _ value _ => value
  | .setCookie cookie => cookie.name ++ "=" ++ cookie.value ++ cookie.attributes

/-- A response. -/
structure HttpResponse where
  statusCode : Nat
  headers : List Header
  text : String

/-- How a request ends. -/
inductive Answer where
  | response (value : HttpResponse)
  /-- An `httpx.RequestError`. -/
  | refused (message : String)
  /-- Any other exception. -/
  | raised (message : String)

/-! ## Pages -/

/-- An `input` for a password: its `autocomplete` and its markup. -/
structure PasswordField where
  autocomplete : Option String
  markup : String

/-- What `BeautifulSoup` finds in a page. -/
structure Document where
  /-- `soup.title.string`. -/
  title : Option String
  /-- The `href` of each link. -/
  links : List String
  /-- The `action` of each form. -/
  forms : List (Option String)
  passwordFields : List PasswordField
  /-- The `src` or `href` of images, scripts, links and frames. -/
  resources : List String

/-! ## The runtime -/

/-- The parts of a URL that the scanner reads. -/
structure UrlParts where
  scheme : String
  netloc : String
  path : String
  query : String
  fragment : String

/-- What the scanner takes from the runtime. -/
structure ScanRuntime where
  py : Interpreter
  /-- `text.lower()`. -/
  lower : String → String
  /-- `urlsplit(url)`, none when it raises. -/
  urlsplit : String → Option UrlParts
  /-- `urlunsplit(parts)`. -/
  urlunsplit : UrlParts → String
  /-- The `hostname` of a netloc. -/
  hostname : String → Option String
  /-- The `port` of a netloc, none when reading it raises. -/
  port : String → Option (Option Nat)
  /-- `urljoin(base, url)`, none when it raises. -/
  urljoin : String → String → Option String
  /-- `os.getenv("LOCALHOST_SCAN_HOST")`. -/
  localhostScanHost : Option String
  /-- `BeautifulSoup(html, "html.parser")`, or the text of the `ParserRejectedMarkup` it raises. -/
  parseHtml : String → Except String Document
  /-- The table of `remediation.py`: the impact and the remediation of a title. -/
  remediation : String → String × String

/-! ## Rows -/

/-- `Finding.severity`. -/
inductive Severity where
  | info
  | low
  | medium
  | high
  | critical
deriving DecidableEq

/-- An item of `findings_data`. -/
structure FindingData where
  title : String
  severity : Severity
  category : String
  affectedUrl : String
  description : String
  evidence : String

/-- A row of `targets`. -/
structure Target where
  name : String
  baseUrl : Option String
  domain : Option String
  environment : Option String
  authorizationConfirmed : Option Bool

/-- `Scan.status`. -/
inductive ScanStatus where
  | queued
  | running
  | completed
  | failed
deriving DecidableEq

/-- The scores of `calculate_posture_scores`. -/
structure PostureScores where
  overall : Int
  transportSecurity : Int
  browserDefense : Int
  sessionSafety : Int
  exposureHygiene : Int
  authenticationSurface : Int

/-- A row of `scans`. -/
structure Scan where
  targetId : Nat
  profile : String
  status : ScanStatus
  completedAt : Option Instant
  totalFindings : Nat
  riskScore : Rat
  posture : PostureScores
  errorMessage : Option String

/-- A row of `findings`. -/
structure Finding where
  scanId : Nat
  targetId : Nat
  data : FindingData
  impact : String
  remediation : String

/-- A row of `evidence_artifacts`. -/
structure EvidenceArtifact where
  scanId : Nat
  targetId : Nat
  artifactType : String
  title : String
  redactedText : String
  relatedUrl : String

/-- A row of `crawl_nodes`. -/
structure CrawlNode where
  scanId : Nat
  targetId : Nat
  url : String
  path : String
  statusCode : Option Nat
  contentType : Option String
  pageTitle : Option String
  depth : Nat
  parentUrl : Option String
  hasForms : Bool
  hasPasswordField : Bool
  findingCount : Nat

/-- A row of `posture_diffs`. -/
structure PostureDiff where
  currentScanId : Nat
  previousScanId : Nat
  targetId : Nat
  newFindingsCount : Nat
  resolvedFindingsCount : Nat
  unchangedFindingsCount : Nat
  riskScoreDelta : Rat
  postureScoreDelta : Int
  summary : String

/-- A row of `reports`. -/
structure Report where
  scanId : Nat
  targetId : Nat
  title : String
  executiveSummary : String
  htmlContent : String

/-- A row of `notifications`. -/
structure Notification where
  title : String
  message : String
  kind : String
  entityType : String
  entityId : Nat

/-- The row of `app_settings`, with what a scan reads of it. -/
structure AppSettings where
  maxPagesStandard : Nat
  maxPagesFull : Nat
  maxDepthStandard : Nat
  maxDepthFull : Nat
  autoGenerateReport : Bool

/-- The tables of the module. -/
structure ScanDatabase where
  targets : Table Target
  scans : Table Scan
  findings : Table Finding
  evidence : Table EvidenceArtifact
  crawlNodes : Table CrawlNode
  postureDiffs : Table PostureDiff
  reports : Table Report
  notifications : List Notification
  settings : Option AppSettings

/-!
## Requests and checks of a scan

The HTTP client of the scanner, which answers from the server in the order of its requests, the
passive checks of a response, the check for exposed files and the crawler.
-/

variable (env : ScanRuntime)

/-! ## The client -/

/-- A request that the client hands over. -/
structure Request where
  method : String
  url : String
  host : Option String
deriving DecidableEq

/-- How a call of the client ends. -/
inductive Fetched where
  | response (value : HttpResponse)
  | error (message : String)
  | raised (message : String)

/-- The hosts that `LOCALHOST_SCAN_HOST` stands for. -/
def localHosts : List String := ["localhost", "127.0.0.1", "::1"]

/-- `_request_details(url)`, none when it raises. -/
def requestDetails (url : String) : Option (String × Option String) := do
  let parsed ← env.urlsplit url
  match env.localhostScanHost with
  | some replacement =>
    if replacement ≠ "" ∧ (env.hostname parsed.netloc).any localHosts.contains then
      let port ← env.port parsed.netloc
      let netloc := match port with
        | some number => if number = 0 then replacement else replacement ++ ":" ++ toString number
        | none => replacement
      return (env.urlunsplit { parsed with netloc := netloc }, some parsed.netloc)
    else return (url, none)
  | none => return (url, none)

/-- `get(url)` and `head(url)`; the answers come in the order of the requests. -/
def fetch (answers : Nat → Answer) (method url : String) (sent : List Request) :
    List Request × Fetched :=
  match requestDetails env url with
  | none => (sent, .raised "ValueError")
  | some (requestUrl, host) =>
    let after := sent ++ [⟨method, requestUrl, host⟩]
    match answers sent.length with
    | .response value => (after, .response value)
    | .refused message => (after, .error ("Request to " ++ url ++ " failed: " ++ message))
    | .raised message => (after, .raised message)

/-! ## Headers -/

/-- `", ".join(values)`. -/
def joinValues : List String → String
  | [] => ""
  | [value] => value
  | value :: next :: rest => value ++ (", " ++ joinValues (next :: rest))

/-- `response.headers.get(name)`: the values of a name, joined. -/
def headerValue? (headers : List Header) (name : String) : Option String :=
  match (headers.filter fun header => header.name == name).map Header.value with
  | [] => none
  | values => some (joinValues values)

/-- `dict(response.headers)`: a name stands where it came first. -/
def headerDict (headers : List Header) : List (String × String) :=
  (headers.map Header.name).reverse.dedup.reverse.map fun name =>
    (name, (headerValue? headers name).getD "")

/-- `str(headers)`. -/
def headerText (headers : List Header) : String :=
  env.py.repr (.obj ((headerDict headers).map fun field => (field.1, .str field.2)))

/-! ## Passive checks -/

def checkSecurityHeaders (url : String) (headers : List Header) : List FindingData :=
  let names := (headerDict headers).map Prod.fst
  [("content-security-policy", "Missing Content-Security-Policy", Severity.medium),
    ("strict-transport-security", "Missing Strict-Transport-Security", .medium),
    ("x-frame-options", "Missing X-Frame-Options", .low),
    ("x-content-type-options", "Missing X-Content-Type-Options", .low),
    ("referrer-policy", "Missing Referrer-Policy", .low),
    ("permissions-policy", "Missing Permissions-Policy", .info)].filterMap
      fun (header, title, severity) =>
        if header ∈ names then none
        else some ⟨title, severity, "Security Headers", url,
          "The HTTP response does not include the " ++ header ++ " header.",
          "Headers received: " ++ env.py.repr (.arr (names.map .str))⟩

/-- A flag of a cookie that is missing. -/
def missingFlag (url flag title description : String) (severity : Severity) (value : String) :
    List FindingData :=
  if Text.contains (env.lower value) flag then []
  else [⟨title, severity, "Cookies", url, description, "Set-Cookie: " ++ value⟩]

def checkSetCookieHeaders (url : String) (headers : List Header) (scheme : String) :
    List FindingData :=
  headers.flatMap fun header =>
    if header.name = "set-cookie" then
      missingFlag env url "secure" "Missing Secure Flag on Cookie"
          "A cookie was set without the Secure flag."
          (if scheme = "https" then .low else .medium) header.value ++
        missingFlag env url "httponly" "Missing HttpOnly Flag on Cookie"
          "A cookie was set without the HttpOnly flag." .low header.value ++
        missingFlag env url "samesite" "Missing SameSite Attribute on Cookie"
          "A cookie was set without the SameSite attribute." .low header.value
    else []

def checkCors (url : String) (headers : List Header) : List FindingData :=
  let origin := headerValue? headers "access-control-allow-origin"
  let credentials := headerValue? headers "access-control-allow-credentials"
  (if origin = some "*" then
      [⟨"Overly Permissive CORS (Access-Control-Allow-Origin: *)", .medium, "CORS", url,
        "The application allows cross-origin requests from any domain.",
        "Access-Control-Allow-Origin: *"⟩]
    else []) ++
    match origin with
    | some allowed =>
      if allowed ≠ "" ∧ allowed ≠ "*" ∧ credentials = some "true" then
        [⟨"CORS Allow Credentials Enabled", .info, "CORS", url,
          "The application allows credentials in cross-origin requests.",
          "Origin: " ++ allowed ++ ", Credentials: true"⟩]
      else []
    | none => []

def checkHttps (url : String) : List FindingData :=
  match env.urlsplit url with
  | some parsed =>
    if parsed.scheme = "http" then
      [⟨"Cleartext HTTP Usage", .high, "HTTPS/TLS", url,
        "The site is accessed over HTTP, which transmits data in cleartext.",
        "URL Scheme: http"⟩]
    else []
  | none => []

def checkMixedContent (url html : String) : Except String (List FindingData) :=
  match env.urlsplit url with
  | some parsed =>
    if parsed.scheme = "https" then do
      let document ← env.parseHtml html
      let mixed := document.resources.filter (Text.startsWith · "http://")
      return if mixed = [] then [] else
        [⟨"Mixed Content (HTTP resources on HTTPS page)", .medium, "HTTPS/TLS", url,
          "The HTTPS page loads resources over insecure HTTP.",
          "Resources: " ++ env.py.repr (.arr ((mixed.take 3).map .str)) ++ "..."⟩]
    else .ok []
  | none => .ok []

/-- A header that discloses a technology. -/
def disclosure (url name title label description : String) (severity : Severity)
    (headers : List Header) : List FindingData :=
  match headerValue? headers name with
  | some value =>
    if value = "" then []
    else [⟨title, severity, "Technology Disclosure", url, description, label ++ value⟩]
  | none => []

def checkTechnologyDisclosure (url : String) (headers : List Header) (html : String) :
    List FindingData :=
  disclosure url "server" "Server Header Disclosure" "Server: "
      "The Server HTTP header is exposed, revealing technology stack details." .info headers ++
    disclosure url "x-powered-by" "X-Powered-By Header Disclosure" "X-Powered-By: "
      "The X-Powered-By HTTP header is exposed, revealing framework details." .low headers ++
    if Text.contains html "data-reactroot" || Text.contains html "id=\"__next\"" then
      [⟨"Frontend Framework Detected (React/Next.js)", .info, "Technology Disclosure", url,
        "Evidence of React or Next.js found in HTML markup.",
        "HTML contains React-specific attributes or standard Next.js mount points."⟩]
    else []

def checkFormsAndAuth (url html : String) : Except String (List FindingData) := do
  let document ← env.parseHtml html
  return (if document.passwordFields = [] then []
    else
      ⟨"Password Field Detected", .info, "Authentication Surface", url,
        "A password input field was detected on this page.",
        "Found " ++ toString document.passwordFields.length ++ " password input(s)."⟩ ::
      ((match env.urlsplit url with
        | some parsed =>
          if parsed.scheme = "http" then
            [⟨"Password Form over HTTP", .critical, "Authentication Surface", url,
              "A password input field is served over unencrypted HTTP.",
              "Password field present on an HTTP URL."⟩]
          else []
        | none => []) ++
        document.passwordFields.filterMap fun field =>
          if field.autocomplete.getD "" = "" then
            some ⟨"Missing Autocomplete Attribute on Password Field", .low,
              "Authentication Surface", url,
              "Password field does not explicitly disable autocomplete.",
              Text.truncate 100 field.markup⟩
          else none)) ++
    document.forms.filterMap fun action =>
      let target := action.getD ""
      if Text.contains (env.lower target) "login" ||
          Text.contains (env.lower target) "signin" then
        some ⟨"Login Form Detected", .info, "Authentication Surface", url,
          "A login-like form was detected.", "Form action: " ++ target⟩
      else none

/-! ## Exposed files -/

def safeFilesList : List String :=
  ["/robots.txt", "/sitemap.xml", "/.well-known/security.txt", "/admin", "/login", "/backup",
    "/config", "/.env"]

/-- What a crawl and the check for files read of a response. -/
structure PageView where
  statusCode : Nat
  contentType : Option String
  text : String

/-- The view of a response. -/
def HttpResponse.view (value : HttpResponse) : PageView :=
  ⟨value.statusCode, headerValue? value.headers "content-type", value.text⟩

/-- The finding for a file that is public. -/
def exposedFile (path url : String) (view : PageView) : FindingData :=
  let isMetadata := ["/robots.txt", "/sitemap.xml", "/.well-known/security.txt"].contains path
  { title := if isMetadata then "Public Metadata Exposed: " ++ path
      else "Sensitive Public Path Exposure: " ++ path
    severity := if isMetadata then .info
      else if path ∈ ["/.env", "/backup", "/config"] then .high
      else if path ∈ ["/admin", "/login"] then .info
      else .low
    category := "Exposed Files"
    affectedUrl := url
    description := if isMetadata then
        "The standard metadata file " ++ path ++ " is publicly accessible."
      else "The file or directory " ++ path ++ " is publicly accessible."
    evidence := "Status: 200 OK, Content-Type: " ++ view.contentType.getD "unknown" ++
      " (Body omitted for safety)" }

/-- One path of `check_exposed_files`: a server that refuses `HEAD` is asked again. -/
def probe (answers : Nat → Answer) (url : String) (sent : List Request) :
    List Request × Fetched :=
  match fetch env answers "HEAD" url sent with
  | (after, .response value) =>
    if value.statusCode = 405 ∨ value.statusCode = 501 then
      fetch env answers "GET" url after
    else (after, .response value)
  | other => other

def checkExposedFiles (answers : Nat → Answer) (baseUrl : String) :
    List String → List Request → List Request × Except String (List FindingData)
  | [], sent => (sent, .ok [])
  | path :: rest, sent =>
    match env.urljoin baseUrl path with
    | none => (sent, .error "ValueError")
    | some url =>
      match probe env answers url sent with
      | (after, .raised message) => (after, .error message)
      | (after, .error _) => checkExposedFiles answers baseUrl rest after
      | (after, .response value) =>
        let (later, found) := checkExposedFiles answers baseUrl rest after
        (later, found.map fun findings =>
          if value.statusCode = 200 then exposedFile path url value.view :: findings
          else findings)

/-! ## The crawler -/

/-- An entry of `pages_content`. -/
structure CrawledPage where
  url : String
  html : Option String
  path : String
  statusCode : Option Nat
  contentType : Option String
  pageTitle : Option String
  depth : Nat
  parentUrl : Option String
  hasForms : Bool
  hasPasswordField : Bool

/-- `full_url.split("#")[0]`. -/
def dropFragment (url : String) : String := String.ofList (url.toList.takeWhile (· != '#'))

/-- `is_same_origin(url)`, none when it raises. -/
def isSameOrigin (baseDomain url : String) : Option Bool :=
  (env.urlsplit url).map fun parsed => parsed.netloc == baseDomain

/-- `urlparse(url).path or "/"`. -/
def pathOf (url : String) : String :=
  match (env.urlsplit url).map UrlParts.path with
  | some path => if path = "" then "/" else path
  | none => "/"

/-- The links of a page that the crawler puts in its queue, none when reading one raises. -/
def followed (baseDomain currentUrl : String) (visited : List String) (links : List String) :
    Option (List String) := do
  let urls ← links.mapM fun href => (env.urljoin currentUrl href).map dropFragment
  let kept ← urls.mapM fun url => do
    let same ← isSameOrigin env baseDomain url
    return (url, same)
  return (kept.filter fun (url, same) => same && !visited.contains url).map Prod.fst

/-- The page that is recorded when there is no HTML. -/
def bareNode (url : String) (depth : Nat) (parent : Option String) (view : Option PageView) :
    CrawledPage where
  url := url
  html := none
  path := pathOf env url
  statusCode := view.map PageView.statusCode
  contentType := view.map fun page => page.contentType.getD ""
  pageTitle := none
  depth := depth
  parentUrl := parent
  hasForms := false
  hasPasswordField := false

/-- The page that is recorded with its HTML. -/
def htmlNode (url : String) (depth : Nat) (parent : Option String) (view : PageView)
    (document : Document) : CrawledPage :=
  { url := url
    html := some view.text
    path := pathOf env url
    statusCode := some view.statusCode
    contentType := some (view.contentType.getD "")
    pageTitle := (document.title.filter (· != "")).map Text.strip
    depth := depth
    parentUrl := parent
    hasForms := !document.forms.isEmpty
    hasPasswordField := !document.passwordFields.isEmpty }

/-- The response to a request whose content is HTML. -/
def htmlView? : Fetched → Option PageView
  | .response value =>
    if Text.contains (value.view.contentType.getD "") "text/html" then some value.view else none
  | _ => none

/-- The response to a request. -/
def view? : Fetched → Option PageView
  | .response value => some value.view
  | _ => none

/-- An item of the crawler's queue: a URL, its depth and the page that links to it. -/
abbrev QueueItem := String × Nat × Option String

/-- One turn of the crawler: the page it records and what it puts in its queue. -/
def visit (answers : Nat → Answer) (baseDomain : String) (maxDepth : Nat) (visited : List String)
    (item : QueueItem) (sent : List Request) :
    List Request × Except String (CrawledPage × List QueueItem) :=
  let (url, depth, parent) := item
  match fetch env answers "GET" url sent with
  | (after, .raised message) => (after, .error message)
  | (after, answer) =>
    match htmlView? answer with
    | none => (after, .ok (bareNode env url depth parent (view? answer), []))
    | some view =>
      match env.parseHtml view.text with
      | .error message => (after, .error message)
      | .ok document =>
        let node := htmlNode env url depth parent view document
        if depth < maxDepth then
          match followed env baseDomain url visited document.links with
          | none => (after, .error "ValueError")
          | some urls => (after, .ok (node, urls.map fun link => (link, depth + 1, some url)))
        else (after, .ok (node, []))

def crawl (answers : Nat → Answer) (baseDomain : String) (maxPages maxDepth : Nat)
    (queue : List QueueItem) (visited : List String) (pages : List CrawledPage)
    (sent : List Request) : List Request × Except String (List CrawledPage) :=
  match queue with
  | [] => (sent, .ok pages)
  | item :: rest =>
    if _full : maxPages ≤ visited.length then (sent, .ok pages)
    else if item.1 ∈ visited then
      crawl answers baseDomain maxPages maxDepth rest visited pages sent
    else
      match visit env answers baseDomain maxDepth (visited ++ [item.1]) item sent with
      | (after, .error message) => (after, .error message)
      | (after, .ok (node, items)) =>
        crawl answers baseDomain maxPages maxDepth (rest ++ items) (visited ++ [item.1])
          (pages ++ [node]) after
termination_by (maxPages - visited.length, queue.length)
decreasing_by
  all_goals simp only [List.length_append, List.length_cons]
  · exact Prod.Lex.right _ (by omega)
  · exact Prod.Lex.left _ _ (by omega)

end ThreatScope.Scanner
