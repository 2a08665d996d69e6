import StaticSite.Storage.Key
import StaticSite.Storage.Session

/-!
Contract: fetching published files.

Owns:
- which object a request for a path fetches;
- which refusals mean that there is no such object.

Does not own: answers to the clients that ask for files (see `StaticSite.Service.Publication`).
-/

namespace StaticSite.Storage

/-- A fetched file. -/
structure Download where
  body : List UInt8
  contentType : String

/-- Whether a refusal means that there is no object with the key. -/
def meansAbsent (code : String) : Bool :=
  code == "NoSuchKey" || code == "404"

/-- Fetches the file that a path of a website means, if there is one. -/
def download {Exception : Type} (account : Account) (websiteId path : String)
    (session : Session Exception) :
    Session Exception × Except (StorageError Exception) (Option Download) :=
  if account.isComplete then
    let key := requestKey websiteId path
    let asked := session.afterRequest
    match session.nextFault with
    | none =>
        (asked, .ok ((session.bucket.lookup key).map fun body => ⟨body, contentTypeOf key⟩))
    | some .networkDown => (asked, .error (.failed .get .networkDown))
    | some (.refused code) =>
        if meansAbsent code then (asked, .ok none)
        else (asked, .error (.failed .get (.refused code)))
    | some (.raised exception) => (asked, .error (.failed .get (.raised exception)))
  else
    (session, .error .missingCredentials)

end StaticSite.Storage
