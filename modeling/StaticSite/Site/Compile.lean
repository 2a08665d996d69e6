import StaticSite.Site.Hydration
import StaticSite.Site.Manifest
import StaticSite.Site.Selection
import StaticSite.Site.ServiceWorker
import StaticSite.Site.Sitemap

/-!
Contract: compilation of a website.

Owns:
- the compiled site: its pages and the files that all pages share;
- the only way in which compilation fails, a time without a date in UTC;
- look-up of compiled pages by path.

Does not own: where the files are put (see `StaticSite.Site.Files`).
-/

namespace StaticSite.Site

open StaticSite.Page

/-- A file of a site. -/
structure File where
  path : String
  content : String
  contentType : String
  deriving DecidableEq

/-- A compiled site. -/
structure CompiledSite where
  websiteId : String
  pages : List CompiledPage
  globalStyle : String
  globalScript : String
  serviceWorker : String
  assets : List File
  manifest : Json
  sitemap : List SitemapEntry
  robots : String

/-- Why a website is not compiled. -/
inductive CompileError where
  | timeOutsideCalendar
  deriving DecidableEq

def CompileError.message : CompileError → String
  | .timeOutsideCalendar => "date value out of range"

/-- The files of a site beside its pages, styles and scripts. -/
def assetsOf (website : Website) (manifest : Json) (sitemap : List SitemapEntry)
    (robots : String) : List File :=
  [ ⟨"manifest.json", manifestText manifest, "application/json"⟩,
    ⟨"sitemap.xml", sitemapText sitemap, "application/xml"⟩,
    ⟨"robots.txt", robots, "text/plain"⟩,
    ⟨"sw.js", serviceWorker website.id, "application/javascript"⟩ ]

/-- The site compiled from a website at a time in UTC. -/
def compileAt [Text.Halves] (website : Website) (options : Options) (time : UtcTime) : CompiledSite :=
  let pages := (pagesOf website).map fun page => Page.compile page website options
  let manifest := manifestOf website options
  let sitemap := sitemapOf options time pages
  let robots := robotsText options
  { websiteId := website.id
    pages := pages
    globalStyle := globalStyle website
    globalScript := hydrationScript website.name options.apiUrl
    serviceWorker := serviceWorker website.id
    assets := assetsOf website manifest sitemap robots
    manifest := manifest
    sitemap := sitemap
    robots := robots }

def compile [Text.Halves] (website : Website) (options : Options) (time : ZonedTime) :
    Except CompileError CompiledSite :=
  match time.toUtc? with
  | some utc => .ok (compileAt website options utc)
  | none => .error .timeOutsideCalendar

/-- The compiled page that a slug or a path leads to. -/
def CompiledSite.pageFor (site : CompiledSite) (slug : String) : Option CompiledPage :=
  site.pages.find? fun page => page.path == pathOfSlug (some slug)

/-- How often compilation of the pages had to make do. -/
def CompiledSite.warningCount (site : CompiledSite) : Nat :=
  (site.pages.flatMap (·.warnings)).length

/-! ## JSON forms -/

def File.toJson (file : File) : Json :=
  .object
    [ ("path", .text file.path), ("content", .text file.content),
      ("type", .text file.contentType) ]

def CompiledSite.toJson (site : CompiledSite) : Json :=
  .object
    [ ("websiteId", .text site.websiteId),
      ("pages", .array (site.pages.map CompiledPage.toJson)),
      ("globalCSS", .text site.globalStyle),
      ("globalJS", .text site.globalScript),
      ("assets", .array (site.assets.map File.toJson)),
      ("manifest", site.manifest),
      ("sitemap", .array (site.sitemap.map SitemapEntry.toJson)),
      ("robots", .text site.robots) ]

end StaticSite.Site
