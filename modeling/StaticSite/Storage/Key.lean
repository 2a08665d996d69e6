import StaticSite.Page.Address

/-!
Contract: where published files are kept in storage.

Owns:
- the key of the file that a request for a path of a site means;
- the content type that the ending of a key tells.

Does not own: the paths of a site's files (see `StaticSite.Site.Files`).
-/

namespace StaticSite.Storage

def fileKey (websiteId path : String) : String :=
  websiteId ++ "/" ++ path

/-- Whether the last of some segments has a dot, which marks the name of a file. -/
def endsInFileName (segments : List String) : Bool :=
  match segments.getLast? with
  | some last => last.toList.contains '.'
  | none => false

/-- The file that a path below the root of a site means: itself if its last segment
has a dot, otherwise the document at that path. -/
def requestedFile (path : String) : String :=
  let segments := Page.namedSegments path
  let relative := "/".intercalate segments
  if endsInFileName segments then relative else Page.filePath ("/" ++ relative)

/-- The key of the file that a path of a website means. -/
def requestKey (websiteId path : String) : String :=
  fileKey websiteId (requestedFile path)

/-- The text after the last dot of a key; nothing if there is no dot. -/
def ending (key : String) : String :=
  match Text.splitAt '.' key with
  | [_] => ""
  | parts => parts.getLastD ""

/-- The content types of the endings that files of a site have. -/
def contentTypes : List (String × String) :=
  [ ("html", "text/html"),
    ("css", "text/css"),
    ("js", "application/javascript"),
    ("json", "application/json"),
    ("xml", "application/xml"),
    ("txt", "text/plain") ]

/-- The content type that a key tells, whatever the case of its ending.  Listed
endings consist of letters that only ASCII capitals have as their small form, so that
folding ASCII letters is enough. -/
def contentTypeOf (key : String) : String :=
  (contentTypes.lookup (ending key).toLower).getD "application/octet-stream"

end StaticSite.Storage
