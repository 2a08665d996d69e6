import StaticSite.Island.Record
import StaticSite.Json.Writer
import StaticSite.Page.Source

/-!
Contract: the document of a page.

Owns:
- the head with its metadata, styles and hints;
- the body with the markup of the components;
- the data that the document hands to its scripts, as JSON text in which no end tag begins.

Does not own: the markup of the components (see `StaticSite.Emission.Emitter`).
-/

namespace StaticSite.Page

open StaticSite.Markup

/-! ## Styles and scripts that are part of the document -/

/-- The style of what is seen first, the same on every page. -/
def criticalRules : List Style.Rule :=
  [ .compact ["*"] [⟨"box-sizing", "border-box"⟩],
    .compact ["body"] [⟨"margin", "0"⟩, ⟨"font-family", "system-ui, -apple-system, sans-serif"⟩],
    .compact [".skip-link"]
      [ ⟨"position", "absolute"⟩,
        ⟨"top", "-40px"⟩,
        ⟨"left", "6px"⟩,
        ⟨"background", "#000"⟩,
        ⟨"color", "#fff"⟩,
        ⟨"padding", "8px"⟩,
        ⟨"text-decoration", "none"⟩,
        ⟨"z-index", "1000"⟩ ],
    .compact [".skip-link:focus"] [⟨"top", "6px"⟩],
    .compact ["#app"] [⟨"min-height", "100vh"⟩],
    .compact ["main"] [⟨"min-height", "100vh"⟩],
    .compact [".hero-section"]
      [ ⟨"min-height", "60vh"⟩,
        ⟨"display", "flex"⟩,
        ⟨"align-items", "center"⟩,
        ⟨"justify-content", "center"⟩ ],
    .compact [".navigation-container"]
      [⟨"position", "sticky"⟩, ⟨"top", "0"⟩, ⟨"z-index", "100"⟩] ]

/-- The text of the style of what is seen first. -/
def criticalStyle : String :=
  Style.oneLineText criticalRules

def workerRegistration : List Script.Code :=
  [
    .block "if ('serviceWorker' in navigator) " [
      .block "window.addEventListener('load', function () " [
        .block "navigator.serviceWorker.register('/sw.js').catch(function (error) " [
          "console.log('SW registration failed', error);"
        ] ");"
      ] ");"
    ] "" ]

/-- A text in which a backslash parts each left angle bracket from a slash directly
after it. -/
def guardEndTags : List Char → List Char
  | '<' :: '/' :: rest => '<' :: '\\' :: '/' :: guardEndTags rest
  | character :: rest => character :: guardEndTags rest
  | [] => []

/-- The text of a value inside a script element. -/
def inlineData (value : Json) : String :=
  String.ofList (guardEndTags (value.write Json.sortedLayout).toList)

/-- A setting of a global variable of the document's scripts. -/
def globalSetting (name : String) (value : Json) : Html :=
  .verbatim ("window." ++ name ++ " = " ++ inlineData value ++ ";")

/-- What the scripts know about the website. -/
def siteConfig (website : Website) : Json :=
  .object
    [ ("id", .text website.id),
      ("name", .text (Text.firstOf [website.name] "")),
      ("language", .text website.languageOrDefault),
      ("theme", Island.optionalText website.theme) ]

/-! ## Head -/

def metaNamed (name value : String) : Html :=
  .void "meta" [.fixed "name" name, .holding "content" value]

/-- A metadata element with a value for previews. -/
def metaProperty (property value : String) : Html :=
  .void "meta" [.fixed "property" property, .holding "content" value]

def metaFixed (kind name content : String) : Html :=
  .void "meta" [.fixed kind name, .fixed "content" content]

/-- The preview image under a metadata element, if there is one. -/
def previewImage (element : String → Html) (seo : Seo) : List Html :=
  ((Text.nonempty? seo.ogImage).map element).toList

def styleAddress (asset : String) : String :=
  "/css/page-" ++ asset ++ ".css"

def scriptAddress (asset : String) : String :=
  "/js/page-" ++ asset ++ ".js"

/-- A link to a style that loads without holding up the page. -/
def deferredStyle (address : String) : Html :=
  .void "link"
    [ .fixed "rel" "stylesheet", .holding "href" address, .fixed "media" "print",
      .fixed "onload" "this.media='all'" ]

def plainStyle (address : String) : Html :=
  .void "link" [.fixed "rel" "stylesheet", .holding "href" address]

/-- A link to a file to load ahead; fonts are told by their ending. -/
def preloadLink (address : String) : Html :=
  let kind : List Attribute :=
    if ".woff2".toList.isSuffixOf address.toList then
      [.fixed "as" "font", .fixed "type" "font/woff2", .bare "crossorigin"]
    else
      [.fixed "as" "image"]
  .void "link" ([.fixed "rel" "preload", .holding "href" address] ++ kind)

/-- What stands in the head before the hints. -/
def metadata (website : Website) (options : Options) (seo : Seo) : List Html :=
  [ .void "meta" [.fixed "charset" "UTF-8"],
    metaFixed "name" "viewport" "width=device-width, initial-scale=1.0",
    metaFixed "http-equiv" "X-UA-Compatible" "IE=edge",
    .element "title" [] [.text [.anywhere seo.title]],
    metaNamed "description" seo.description ] ++
  (if seo.keywords.isEmpty then []
    else [metaNamed "keywords" (", ".intercalate seo.keywords)]) ++
  [ metaProperty "og:title" seo.title,
    metaProperty "og:description" seo.description,
    metaFixed "property" "og:type" "website",
    metaProperty "og:url" seo.canonical ] ++
  previewImage (metaProperty "og:image") seo ++
  [ metaFixed "name" "twitter:card" "summary_large_image",
    metaNamed "twitter:title" seo.title,
    metaNamed "twitter:description" seo.description ] ++
  previewImage (metaNamed "twitter:image") seo ++
  [ .void "link" [.fixed "rel" "canonical", .holding "href" seo.canonical],
    metaNamed "theme-color" options.themeColor,
    metaFixed "name" "apple-mobile-web-app-capable" "yes",
    metaFixed "name" "apple-mobile-web-app-status-bar-style" "default",
    metaNamed "apple-mobile-web-app-title" (Text.firstOf [website.name] seo.title),
    .element "style" [] [.verbatim criticalStyle] ]

def headLinks (asset : String) (preloads : List String) : List Html :=
  [ .void "link"
      [.fixed "rel" "preload", .fixed "href" "/css/global.css", .fixed "as" "style"],
    .void "link"
      [.fixed "rel" "preload", .fixed "href" "/js/global.js", .fixed "as" "script"] ] ++
  preloads.map preloadLink ++
  [ deferredStyle "/css/global.css",
    deferredStyle (styleAddress asset),
    .sheet "noscript" [] [plainStyle "/css/global.css", plainStyle (styleAddress asset)],
    .void "link"
      [.fixed "rel" "icon", .fixed "type" "image/x-icon", .fixed "href" "/favicon.ico"],
    .void "link" [.fixed "rel" "apple-touch-icon", .fixed "href" "/apple-touch-icon.png"],
    .void "link" [.fixed "rel" "manifest", .fixed "href" "/manifest.json"] ]

/-! ## Body -/

def mainRegion (bodies : List Html) : Html :=
  .sheet "main" [.fixed "id" "main-content", .fixed "role" "main"] bodies

/-- The settings that hand data to the scripts. -/
def settings (website : Website) (options : Options) (islands : List Island) : Html :=
  .sheet "script" []
    [ globalSetting "__DYNAMIC_COMPONENTS__" (.array (islands.map Island.toJson)),
      globalSetting "__API_BASE_URL__" (.text options.apiUrl),
      globalSetting "__SITE_CONFIG__" (siteConfig website) ]

/-- A script that runs after the document has been read. -/
def deferredScript (address : String) : Html :=
  .element "script" [.holding "src" address, .bare "defer"] []

def bodyOf (page : Page) (website : Website) (options : Options) (deferrals : List String)
    (bodies : List Html) (islands : List Island) : Html :=
  .sheet "body" []
    ([ .element "a" [.fixed "href" "#main-content", .fixed "class" "skip-link"]
        [.text [.literal "Skip to main content"]],
      .sheet "div"
        [ .fixed "id" "app", .holding "data-page-id" page.id,
          .holding "data-page-slug" page.path ]
        [mainRegion bodies],
      .block 2 "script" [] ((Script.codeLines workerRegistration).map .verbatim),
      settings website options islands,
      deferredScript "/js/global.js",
      deferredScript (scriptAddress page.asset) ] ++
    deferrals.map fun address =>
      .void "link" [.fixed "rel" "prefetch", .holding "href" address])

def documentRoot (page : Page) (website : Website) (options : Options) (seo : Seo)
    (preloads deferrals : List String) (bodies : List Html) (islands : List Island) :
    Html :=
  .sheet "html" [.holding "lang" website.languageOrDefault, .fixed "dir" "ltr"]
    [ .sheet "head" [] (metadata website options seo ++ headLinks page.asset preloads),
      bodyOf page website options deferrals bodies islands ]

def documentText (root : Html) : String :=
  Text.endLines ["<!DOCTYPE html>", root.render]

end StaticSite.Page
