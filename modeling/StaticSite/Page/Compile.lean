import StaticSite.Island.Hint
import StaticSite.Page.Behavior
import StaticSite.Page.Content
import StaticSite.Page.Document

/-!
Contract: compilation of one page.

Owns:
- the parts that the components of a page contribute, in their order;
- the islands of a page;
- the files that a page asks to be loaded early or late;
- the compiled page. Unusable content gives an empty page with a warning, and no
  content makes the compilation fail.

Does not own: the parts themselves, or the hints of one component (see
`StaticSite.Island.Hint`).
-/

namespace StaticSite.Page

open StaticSite.Component

/-- What the browser should know about the loading of a page. -/
structure Performance where
  criticalStyle : String
  preloads : List String
  deferrals : List String

/-- A compiled page. -/
structure CompiledPage where
  pageId : String
  path : String
  html : String
  css : String
  js : String
  islands : List Island
  seo : Seo
  performance : Performance
  warnings : List Warning

/-- The name of a compiled page in the names of its files. -/
def CompiledPage.asset (page : CompiledPage) : String :=
  assetName page.pageId

/-- A component together with its contribution. -/
structure Part where
  node : Node
  fragment : Fragment

def partsOf (options : Options) (nodes : List Node) : List Part :=
  nodes.map fun node => ⟨node, options.emitter.emitOrSubstitute node⟩

/-- The island that a component is, if its type is dynamic. -/
def islandOf (table : Island.Table) (node : Node) : Option Island :=
  let record := table.classify node.type
  if record.isDynamic then
    some
      { id := node.id
        type := node.type
        props := node.props
        apiEndpoint := record.apiEndpoint
        cacheStrategy := record.cacheStrategy
        hydrationStrategy := record.hydrationStrategy }
  else
    none

/-- The script of a part in its frame, if it has a script. -/
def Part.script? (part : Part) : Option (List String) :=
  (Text.nonempty? part.fragment.js).map (componentScript part.node)

/-- The style sheet of a page: the styles of its parts with an empty line between. -/
def styleSheet (parts : List Part) : String :=
  Text.joinLines ((parts.map (·.fragment.css)).filter (· != ""))

def partWarnings (parts : List Part) : List Warning :=
  parts.filterMap (·.fragment.warning)

/-- Adds a hint unless it is no safe link or is listed already. -/
def addHint (listed : List String) (hint : String) : List String :=
  let link := Url.safe hint
  if link == Url.harmless || listed.contains link then listed else listed ++ [link]

/-- The links of some hints, each once and in the order of their first mention. -/
def collectHints (hints : List String) : List String :=
  hints.foldl addHint []

def contentWarning (error : ContentError) : Warning :=
  { code := "content_parse_error"
    message := error.message
    componentId := none }

def compileContent (page : Page) (website : Website) (options : Options)
    (warnings : List Warning) (content : Content) : CompiledPage :=
  let parts := partsOf options content.components
  let islands := content.components.filterMap (islandOf options.classifier)
  let preloads := collectHints (content.components.flatMap Island.preloads)
  let deferrals := collectHints (content.components.flatMap Island.deferrals)
  let seo := seoOf page website options content.ogImage
  let root :=
    documentRoot page website options seo preloads deferrals (parts.map (·.fragment.body))
      islands
  { pageId := page.id
    path := page.path
    html := documentText root
    css := styleSheet parts
    js := pageScript (parts.filterMap Part.script?)
    islands := islands
    seo := seo
    performance := ⟨criticalStyle, preloads, deferrals⟩
    warnings := warnings ++ partWarnings parts }

def compile [Text.Halves] (page : Page) (website : Website) (options : Options) : CompiledPage :=
  match readContent page.content with
  | .ok content => compileContent page website options [] content
  | .error error => compileContent page website options [contentWarning error] .empty

/-! ## JSON forms -/

def textsJson (values : List String) : Json :=
  .array (values.map .text)

def warningJson (warning : Warning) : Json :=
  .object
    ([("code", .text warning.code), ("message", .text warning.message)] ++
      (warning.componentId.map fun id => ("componentId", Json.text id)).toList)

/-- The JSON form of what a page says about itself. -/
def Seo.toJson (seo : Seo) : Json :=
  .object
    ([ ("title", .text seo.title),
      ("description", .text seo.description),
      ("keywords", textsJson seo.keywords),
      ("canonical", .text seo.canonical) ] ++
      ((Text.nonempty? seo.ogImage).map fun image => ("ogImage", Json.text image)).toList)

def CompiledPage.toJson (page : CompiledPage) : Json :=
  .object
    [ ("pageId", .text page.pageId),
      ("path", .text page.path),
      ("html", .text page.html),
      ("css", .text page.css),
      ("js", .text page.js),
      ("dynamicComponents", .array (page.islands.map Island.toJson)),
      ("seo", page.seo.toJson),
      ("performance", .object
        [ ("criticalCSS", .text page.performance.criticalStyle),
          ("preloadAssets", textsJson page.performance.preloads),
          ("deferAssets", textsJson page.performance.deferrals) ]),
      ("warnings", .array (page.warnings.map warningJson)) ]

end StaticSite.Page
