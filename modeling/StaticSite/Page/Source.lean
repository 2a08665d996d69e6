import StaticSite.Emission.Emitter
import StaticSite.Island.Record
import StaticSite.Page.Address

/-!
Contract: what a site is compiled from.

Owns:
- pages and websites as they are stored;
- the options of a compilation;
- texts that may be missing, and what stands for them;
- title, description, keywords, canonical address and preview image of a page, with
  their fallbacks.

Does not own: reading pages from requests (see `StaticSite.Request.Website`), or the
markup that carries what a page says about itself (see `StaticSite.Page.Document`).
-/

namespace StaticSite.Text

/-- A given text, unless it is empty.  A text of blanks counts as given. -/
def nonempty? (text : Option String) : Option String :=
  text.filter (· != "")

/-- The first of some texts that is given and not empty, or else `fallback`. -/
def firstOf (texts : List (Option String)) (fallback : String) : String :=
  (texts.findSome? nonempty?).getD fallback

end StaticSite.Text

namespace StaticSite

/-- A stored page.  Its content is JSON text with a list of components. -/
structure Page where
  id : String
  name : Option String
  slug : Option String
  content : Option String
  metaTitle : Option String
  metaDescription : Option String
  metaKeywords : Option String

/-- A stored website. -/
structure Website where
  id : String
  name : Option String
  description : Option String
  language : Option String
  theme : Option String
  pages : List Page

/-- The options of a compilation: the address of the site, the address of its data,
colours, and the tables of records and renderers. -/
structure Options where
  baseUrl : String := "http://localhost:8000"
  apiBaseUrl : Option String := none
  themeColor : String := "#3b82f6"
  backgroundColor : String := "#ffffff"
  classifier : Island.Table := Island.Table.builtIn
  emitter : Emission.Emitter := Emission.Emitter.builtIn

def Page.path (page : Page) : String :=
  Page.pathOfSlug page.slug

/-- The name of a page in the names of its files. -/
def Page.asset (page : Page) : String :=
  Page.assetName page.id

/-- The language of a website, English unless it says otherwise. -/
def Website.languageOrDefault (website : Website) : String :=
  Text.firstOf [website.language] "en"

/-- The name of a website as its own files show it. -/
def Website.title (website : Website) : String :=
  Text.firstOf [website.name] "Untitled Site"

/-- The address of the site without slashes at its end. -/
def Options.siteUrl (options : Options) : String :=
  Text.stripTrailing '/' options.baseUrl

/-- The address of the data without slashes at its end; that of the site by default. -/
def Options.apiUrl (options : Options) : String :=
  Text.stripTrailing '/' (Text.firstOf [options.apiBaseUrl] options.baseUrl)

namespace Page

/-- What a page says about itself. -/
structure Seo where
  title : String
  description : String
  keywords : List String
  canonical : String
  ogImage : Option String

/-- The keywords in a text that separates them by commas. -/
def keywordsOf (text : String) : List String :=
  ((Text.splitAt ',' text).map Text.strip).filter (· != "")

/-- What a page of a website says about itself. -/
def seoOf (page : Page) (website : Website) (options : Options) (ogImage : Option String) :
    Seo :=
  { title := Text.firstOf [page.metaTitle, page.name, website.name] "Untitled Page"
    description := Text.firstOf [page.metaDescription, website.description] ""
    keywords := keywordsOf (page.metaKeywords.getD "")
    canonical := options.siteUrl ++ page.path
    ogImage := ogImage }

end Page

end StaticSite
