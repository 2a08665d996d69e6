import StaticSite.Site.Files
import StaticSite.Storage.Key
import StaticSite.Storage.Session
import StaticSite.Text.Encoding

/-!
Contract: storing the files of a site.

Owns:
- which faults an attempt is repeated after, how often, and after what pause;
- storing files in order up to the first that fails, each as the bytes that an encoder gives.

Does not own: the files themselves (see `StaticSite.Site.Files`), and the bytes of a text (see
`StaticSite.Text.Encoding`).
-/

namespace StaticSite.Storage

variable {Exception : Type}

/-- The codes of refusals that may pass. -/
def transientCodes : List String :=
  ["RequestTimeout", "ServiceUnavailable", "ThrottlingException", "Throttling", "SlowDown"]

/-- Whether a repeated request may succeed after a fault. -/
def Fault.isTransient : Fault Exception → Bool
  | networkDown => true
  | refused code => transientCodes.contains code
  | raised _ => false

def attemptOf (account : Account) (key : String) (body : List UInt8) (contentType : String) :
    Attempt :=
  { bucketName := account.bucketName
    key := key
    contentType := contentType ++ "; charset=utf-8"
    access := "public-read"
    size := body.length }

/-- Stores an object after `failed` attempts have failed, with at most `retries` more
attempts after the next one.  Pauses double from one second on. -/
def putObject (account : Account) (key : String) (body : List UInt8) (contentType : String)
    (failed : Nat) :
    Nat → Session Exception → Session Exception × Except (StorageError Exception) Unit
  | retries, session =>
      let tried := session.afterAttempt (attemptOf account key body contentType)
      match session.nextFault with
      | none => (tried.keep key body, .ok ())
      | some fault =>
          match retries with
          | 0 => (tried, .error (.failed .put fault))
          | fewer + 1 =>
              if fault.isTransient then
                putObject account key body contentType (failed + 1) fewer
                  (tried.pause (Nat.pow 2 failed))
              else
                (tried, .error (.failed .put fault))

/-- Stores an object with at most the given number of attempts. -/
def putWithin (account : Account) (key : String) (body : List UInt8) (contentType : String)
    (attempts : Nat) (session : Session Exception) :
    Session Exception × Except (StorageError Exception) Unit :=
  match attempts with
  | 0 => (session, .error .neverAttempted)
  | retries + 1 => putObject account key body contentType 0 retries session

section

variable (encode : String → Except Exception (List UInt8)) (account : Account)

/-- Stores a file.  Content that cannot be encoded is not attempted. -/
def putFile (key : String) (file : Site.File) (attempts : Nat) (session : Session Exception) :
    Session Exception × Except (StorageError Exception) Unit :=
  match encode file.content with
  | .error exception => (session, .error (.unencodable exception))
  | .ok body => putWithin account key body file.contentType attempts session

/-- Stores files of a website in order.  The keys written are the result; the first
file that fails ends the work. -/
def putFiles (websiteId : String) (attempts : Nat) :
    List (String × Site.File) → Session Exception →
      Session Exception × Except (StorageError Exception) (List String)
  | [], session => (session, .ok [])
  | (path, file) :: others, session =>
      let key := fileKey websiteId path
      match putFile encode account key file attempts session with
      | (stopped, .error error) => (stopped, .error error)
      | (stored, .ok ()) =>
          let (final, keys) := putFiles websiteId attempts others stored
          (final, keys.map (key :: ·))

/-- Stores the files of a website, as an encoder gives their bytes, if the account is complete.  A
negative number of retries allows no attempt at all. -/
def uploadWith (websiteId : String) (files : List (String × Site.File)) (retries : Int)
    (session : Session Exception) :
    Session Exception × Except (StorageError Exception) (List String) :=
  if account.isComplete then
    putFiles encode account websiteId (retries + 1).toNat files session
  else
    (session, .error .missingCredentials)

end

/-- The encoder of texts, which have bytes in UTF-8 whatever their characters. -/
def utf8 (text : String) : Except Empty (List UInt8) :=
  .ok (Text.utf8Bytes text)

/-- The number of retries unless told otherwise. -/
def defaultRetries : Int := 1

/-- Stores the files of a website in UTF-8. -/
def upload (account : Account) (websiteId : String) (files : List (String × Site.File))
    (retries : Int) (session : Session) : Session × Except StorageError (List String) :=
  uploadWith utf8 account websiteId files retries session

end StaticSite.Storage
