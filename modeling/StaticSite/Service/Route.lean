import StaticSite.Text.Blank

/-!
Contract: what the paths of the service mean.

Owns:
- the routes and the methods of each;
- the route of a path;
- the path with or without a final slash that is tried when a path has no route.

Does not own: what happens on a route (see `StaticSite.Service.Handler`).
-/

namespace StaticSite.Service

/-- The routes of the service. -/
inductive Route where
  | compile
  | preview
  | publish
  | published (websiteId path : String)
  | health
  | description
  deriving DecidableEq

def Route.methods : Route → List String
  | compile => ["POST"]
  | preview => ["POST"]
  | publish => ["POST"]
  | published _ _ => ["GET"]
  | health => ["GET"]
  | description => ["GET", "HEAD"]

def fixedRoutes : List (String × Route) :=
  [ ("/api/sites/compile", .compile),
    ("/api/sites/preview", .preview),
    ("/api/sites/publish", .publish),
    ("/health", .health),
    ("/openapi.json", .description) ]

/-- The route below the address of the published files: the id of a website, and what
follows the slash after it.  The id is not empty, and the rest is on one line. -/
def publishedRoute? (path : List Char) : Option Route :=
  let websiteId := path.takeWhile (· != '/')
  match path.dropWhile (· != '/') with
  | '/' :: rest =>
      if websiteId.isEmpty || rest.contains '\n' then none
      else some (.published (String.ofList websiteId) (String.ofList rest))
  | _ => none

/-- The path below which the published files are. -/
def publishedRoot : String := "/sites/"

/-- A path without a line end at its very end. -/
def withoutFinalLineEnd (path : List Char) : List Char :=
  if path.getLast? == some '\n' then path.dropLast else path

/-- The route of a path.  A line end at its very end makes no difference. -/
def routeOf (path : String) : Option Route :=
  let characters := withoutFinalLineEnd path.toList
  match fixedRoutes.lookup (String.ofList characters) with
  | some route => some route
  | none =>
      let root := publishedRoot.toList
      if root.isPrefixOf characters then publishedRoute? (characters.drop root.length)
      else none

/-- The path to try instead of one without a route: without the slashes at its end
if it has any, otherwise with one. -/
def alternativePath (path : String) : String :=
  if path.toList.getLast? == some '/' then Text.stripTrailing '/' path else path ++ "/"

/-- Whether another path is worth a redirection from one without a route. -/
def redirects (path : String) : Bool :=
  path != "/" && (routeOf (alternativePath path)).isSome

end StaticSite.Service
