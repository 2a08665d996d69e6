import StaticSite.Service.Description
import StaticSite.Service.Publication
import StaticSite.Service.Route
import StaticSite.Service.Submission

/-!
Contract: the response to each request.

Owns:
- responses on all routes, and where there is no route or another method;
- the order of the tests: route, method, body, compilation, storage.

Does not own: the transport of requests and responses.
-/

namespace StaticSite.Service

open StaticSite.Storage

/-- Compiles a submitted website and goes on with the site. -/
def withCompiledSite (settings : Settings) (time : Site.ZonedTime) (request : Request)
    (session : Session) (next : Site.CompiledSite → Session × Outcome) : Session × Outcome :=
  match submittedWebsite request with
  | .error unusable => (session, unusable.respond)
  | .ok website =>
      match Site.compile website settings.options time with
      | .error error => (session, .error (.compilation error))
      | .ok site => next site

/-- The response with the document of one page of a site. -/
def respondPreview (request : Request) (site : Site.CompiledSite) : Outcome :=
  match site.pageFor ((request.query.lookup "path").getD "/") with
  | some page => respondDocument 200 page.html
  | none => respondDetail 404 "Page not found."

def handleRoute (settings : Settings) (time : Site.ZonedTime) (request : Request)
    (session : Session) (route : Route) : Session × Outcome :=
  match route with
  | .compile =>
      withCompiledSite settings time request session fun site =>
        (session, respondJson 200 site.toJson)
  | .preview =>
      withCompiledSite settings time request session fun site =>
        (session, respondPreview request site)
  | .publish =>
      withCompiledSite settings time request session fun site =>
        publish settings site session
  | .published websiteId path => serve settings request websiteId path session
  | .health => (session, respondJson 200 (.object [("status", .text "ok")]))
  | .description => (session, respondJson 200 Service.description)

def respondNoRoute (path : String) : Outcome :=
  if redirects path then .ok ⟨307, [("location", alternativePath path)], .empty⟩
  else respondDetail 404 "Not Found"

def handle (settings : Settings) (time : Site.ZonedTime) (request : Request)
    (session : Session) : Session × Outcome :=
  match routeOf request.path with
  | none => (session, respondNoRoute request.path)
  | some route =>
      if route.methods.contains request.method then
        handleRoute settings time request session route
      else
        (session,
          respondJsonWith [("allow", ", ".intercalate route.methods)] 405
            (.object [("detail", .text "Method Not Allowed")]))

end StaticSite.Service
