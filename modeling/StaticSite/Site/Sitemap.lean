import StaticSite.Page.Compile
import StaticSite.Site.Clock

/-!
Contract: what search engines are told about a site.

Owns:
- the entries of the sitemap, one for each compiled page, and their text;
- the rules for robots.

Does not own: what they are told about a single page (see `StaticSite.Page.Seo`).
-/

namespace StaticSite.Site

open StaticSite.Markup StaticSite.Page

/-- An entry of the sitemap. -/
structure SitemapEntry where
  url : String
  lastmod : String
  priority : Binary64

def rootPriority : Binary64 := Binary64.ofDecimal false 1 0

def pagePriority : Binary64 := Binary64.ofDecimal false 8 (-1)

def sitemapEntry (options : Options) (time : UtcTime) (page : CompiledPage) : SitemapEntry :=
  { url := options.siteUrl ++ page.path
    lastmod := time.text
    priority := if page.path == "/" then rootPriority else pagePriority }

def sitemapOf (options : Options) (time : UtcTime) (pages : List CompiledPage) :
    List SitemapEntry :=
  pages.map (sitemapEntry options time)

def SitemapEntry.element (entry : SitemapEntry) : Html :=
  .block 2 "url" []
    [ .element "loc" [] [.text [.anywhere entry.url]],
      .element "lastmod" [] [.verbatim entry.lastmod],
      .element "priority" [] [.verbatim entry.priority.onePlaceText] ]

def sitemapText (entries : List SitemapEntry) : String :=
  Text.endLines
    [ "<?xml version=\"1.0\" encoding=\"UTF-8\"?>",
      (Html.block 2 "urlset"
        [.fixed "xmlns" "http://www.sitemaps.org/schemas/sitemap/0.9"]
        (entries.map SitemapEntry.element)).render ]

def SitemapEntry.toJson (entry : SitemapEntry) : Json :=
  .object
    [ ("url", .text entry.url), ("lastmod", .text entry.lastmod),
      ("priority", .real entry.priority) ]

/-- The number of seconds between two requests of a robot. -/
def crawlDelay : Nat := 1

def robotsText (options : Options) : String :=
  Text.endLines
    [ "User-agent: *",
      "Allow: /",
      "",
      "Sitemap: " ++ options.siteUrl ++ "/sitemap.xml",
      "",
      "# Crawl-delay for respectful crawling",
      "Crawl-delay: " ++ toString crawlDelay ]

end StaticSite.Site
