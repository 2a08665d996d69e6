import StaticSite.Component.Node
import StaticSite.Digest.Sha1
import StaticSite.Text.Encoding
import StaticSite.Text.Split

/-!
Contract: where a page and its files are found.

Owns:
- the path of a page, which its slug determines;
- the file of the document at a path;
- the name that a page has in the names of its style and script files.

Does not own: keys in storage (see `StaticSite.Storage.Key`).
-/

namespace StaticSite.Page

/-- The path of the page with a slug.  A slug that is missing, blank or a lone slash
gives the root. -/
def pathOfSlug (slug : Option String) : String :=
  let trimmed := Text.strip (slug.getD "")
  if trimmed == "" || trimmed == "/" then "/"
  else if trimmed.toList.head? == some '/' then trimmed
  else "/" ++ trimmed

/-- Whether a segment of a path names something: it is neither empty nor a dot
segment. -/
def isNamedSegment (segment : String) : Bool :=
  segment != "" && segment != "." && segment != ".."

def namedSegments (path : String) : List String :=
  (Text.splitAt '/' path).filter isNamedSegment

def filePath (path : String) : String :=
  "/".intercalate (namedSegments path ++ ["index.html"])

/-- The number of digits of a digest that tell apart names which were made safe. -/
def digestLength : Nat := 8

/-- The name of a page in the names of its files.  An id that may stand in file names
is the name itself; any other is made safe and told apart by a digest of it. -/
def assetName (id : String) : String :=
  let safe := Component.hyphenate id
  if safe != "" && safe == id then
    safe
  else
    (if safe == "" then "page" else safe) ++ "-" ++
      String.ofList ((Digest.Sha1.hexDigest (Text.utf8Bytes id)).toList.take digestLength)

end StaticSite.Page
