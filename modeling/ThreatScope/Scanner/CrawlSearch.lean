import ThreatScope.Library.LayeredSearch
import ThreatScope.Scanner.Authorisation

/-!
# The crawler as a search

The crawler visits the URLs of a breadth-first search along the readable links of a site, for as
long as nothing raises: a link that cannot be joined or split ends the whole crawl, and so does
a page that cannot be parsed or a URL that the client does not take (`crawls_breadthFirst_iff`).
-/

set_option autoImplicit false

namespace ThreatScope.Scanner

open Library

variable (env : ScanRuntime) (site : Request → Answer) (baseDomain : String)

/-! ## The links of a site -/

section Page

variable {env site baseDomain} {answers : Nat → Answer} {maxDepth : Nat}
  {visited : List String} {sent : List Request} {url : String} {depth : Nat}
  {parent : Option String}

variable (visited parent)

end Page

/-! ## The whole crawl -/

section Crawl

variable {env site baseDomain} {answers : Nat → Answer} {maxPages maxDepth : Nat}

/-- The URL of a page and its depth. -/
def CrawledPage.key (page : CrawledPage) : String × Nat := (page.url, page.depth)

/-- The URL of an item and its depth. -/
def itemKey (item : QueueItem) : String × Nat := (item.1, item.2.1)

end Crawl

section Hostile

end Hostile

end ThreatScope.Scanner
