import StaticSite.Digest.Md5
import StaticSite.Service.Message
import StaticSite.Settings
import StaticSite.Storage.Download
import StaticSite.Storage.Upload

/-!
Contract: publishing sites and serving what has been published.

Owns:
- publication of a compiled site and the report about it;
- responses with published files, their caching and their tags;
- requests that hold the tag of the current content.

Does not own: requests to storage (see `StaticSite.Storage.Session`).
-/

namespace StaticSite.Service

open StaticSite.Storage

/-- The response where storage fails.  Only missing credentials are explained. -/
def respondStorageError (error : StorageError) : Outcome :=
  match error with
  | .missingCredentials => respondDetail 503 error.message
  | _ => .error (.storage error)

/-! ## Publication -/

def publicAddress (settings : Settings) (websiteId : String) : String :=
  settings.publicUrl ++ "/sites/" ++ websiteId ++ "/"

def publicationReport (settings : Settings) (site : Site.CompiledSite) : Json :=
  .object
    [ ("website_id", .text site.websiteId),
      ("url", .text (publicAddress settings site.websiteId)),
      ("files", Page.textsJson ((Site.filesOf site).map (·.1))),
      ("warnings", .int site.warningCount) ]

def publish (settings : Settings) (site : Site.CompiledSite) (session : Session) :
    Session × Outcome :=
  match upload settings.storage site.websiteId (Site.filesOf site) defaultRetries session with
  | (final, .ok _) => (final, respondJson 200 (publicationReport settings site))
  | (final, .error error) => (final, respondStorageError error)

/-! ## Published files -/

/-- How long published files may be kept by browsers and by shared caches. -/
def cacheControl : String :=
  "public, max-age=300, s-maxage=3600, stale-while-revalidate=86400"

def entityTag (content : List UInt8) : String :=
  "\"" ++ Digest.Md5.hexDigest content ++ "\""

/-- The headers that go with some content whether or not it is sent. -/
def cacheHeaders (content : List UInt8) : List (String × String) :=
  [ ("cache-control", cacheControl),
    ("etag", entityTag content),
    ("x-content-type-options", "nosniff") ]

/-- The document that says that there is no such file. -/
def notFoundDocument : String :=
  "<html><body><h1>404 — Page not found</h1></body></html>"

/-- The response with a file, which is not sent again to a client that has it. -/
def respondFile (request : Request) (download : Download) : Response :=
  let headers := cacheHeaders download.body
  if request.header? "if-none-match" == some (entityTag download.body) then
    ⟨304, headers, .empty⟩
  else
    ⟨200, headers ++ [("content-type", download.contentType ++ "; charset=utf-8")],
      .file download.body⟩

/-- Serves the file that a path of a website means. -/
def serve (settings : Settings) (request : Request) (websiteId path : String)
    (session : Session) : Session × Outcome :=
  match download settings.storage websiteId path session with
  | (final, .ok (some found)) => (final, .ok (respondFile request found))
  | (final, .ok none) => (final, respondDocument 404 notFoundDocument)
  | (final, .error error) => (final, respondStorageError error)

end StaticSite.Service
