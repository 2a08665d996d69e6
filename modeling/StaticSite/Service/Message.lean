import StaticSite.Json.Basic
import StaticSite.Json.Writer
import StaticSite.Site.Compile
import StaticSite.Storage.Session
import StaticSite.Text.Encoding

/-!
Contract: requests to the service and its responses.

Owns:
- methods, paths, headers and bodies;
- responses with JSON, with documents and with files;
- what keeps the service from responding. A JSON response cannot hold a number that
  is not finite.

Does not own: which request gets which response (see `StaticSite.Service.Handler`).
-/

namespace StaticSite.Service

/-- A request. -/
structure Request where
  method : String
  path : String
  query : List (String × String)
  headers : List (String × String)
  body : Option String

/-- The value of the first header with a name, whatever the case of its letters. -/
def Request.header? (request : Request) (name : String) : Option String :=
  (request.headers.find? fun header => header.1.toLower == name).map (·.2)

/-- The body of a response. -/
inductive Body where
  | json (value : Json)
  | document (text : String)
  | file (content : List UInt8)
  | empty

def Body.bytes : Body → List UInt8
  | json value => Text.utf8Bytes (value.write Json.compactLayout)
  | document text => Text.utf8Bytes text
  | file content => content
  | empty => []

/-- A response.  The names of headers are in lower case. -/
structure Response where
  status : Nat
  headers : List (String × String)
  body : Body

/-- Why there is no response. -/
inductive ServiceError where
  | storage (error : Storage.StorageError)
  | compilation (error : Site.CompileError)
  | numberNotFinite
  deriving DecidableEq

def ServiceError.message : ServiceError → String
  | storage error => error.message
  | compilation error => error.message
  | numberNotFinite => "Out of range float values are not JSON compliant"

/-- What becomes of a request. -/
abbrev Outcome := Except ServiceError Response

def respondJsonWith (headers : List (String × String)) (status : Nat) (value : Json) :
    Outcome :=
  if value.allFinite then
    .ok ⟨status, headers ++ [("content-type", "application/json")], .json value⟩
  else
    .error .numberNotFinite

def respondJson (status : Nat) (value : Json) : Outcome :=
  respondJsonWith [] status value

/-- A response that explains why there is nothing better. -/
def respondDetail (status : Nat) (detail : String) : Outcome :=
  respondJson status (.object [("detail", .text detail)])

def respondDocument (status : Nat) (text : String) : Outcome :=
  .ok ⟨status, [("content-type", "text/html; charset=utf-8")], .document text⟩

end StaticSite.Service
