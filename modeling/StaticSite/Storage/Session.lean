import StaticSite.Association

/-!
Contract: requests to storage and their faults.

Owns:
- the bucket: objects, which are bytes, under their keys;
- faults, which come in a queue with one entry for each request;
- the log of what is done, attempts to store and pauses between them in one order;
- the wording of failures.

Does not own: when a request is repeated (see `StaticSite.Storage.Upload`).

Sessions, faults and errors are taken over a type of exceptions that nothing handles. It is empty
unless it is given.
-/

namespace StaticSite.Storage

/-- The objects of a bucket under their keys. -/
abbrev Bucket := List (String × List UInt8)

/-- How a request can fail.  A refusal carries a code, which may be empty; an exception that is
neither a refusal nor a failure of the network is raised as it is. -/
inductive Fault (Exception : Type := Empty) where
  | networkDown
  | refused (code : String)
  | raised (exception : Exception)
  deriving DecidableEq

/-- The requests that storage knows. -/
inductive Operation where
  | put
  | get
  deriving DecidableEq

def Operation.name : Operation → String
  | put => "PutObject"
  | get => "GetObject"

/-- Why a file could not be stored or fetched. -/
inductive StorageError (Exception : Type := Empty) where
  | missingCredentials
  | unencodable (exception : Exception)
  | failed (operation : Operation) (fault : Fault Exception)
  | neverAttempted
  deriving DecidableEq

def StorageError.message : StorageError → String
  | missingCredentials => "R2_ENDPOINT, R2_ACCESS_KEY and R2_SECRET_KEY are required to publish"
  | failed _ .networkDown => "network down"
  | failed operation (.refused code) =>
      let shown := if code == "" then "Unknown" else code
      "An error occurred (" ++ shown ++ ") when calling the " ++ operation.name ++
        " operation: " ++ shown
  | neverAttempted => "exceptions must derive from BaseException"

/-- The account that holds the bucket. -/
structure Account where
  endpoint : String
  accessKey : String
  secretKey : String
  bucketName : String

/-- Whether nothing is missing that requests need. -/
def Account.isComplete (account : Account) : Bool :=
  account.endpoint != "" && account.accessKey != "" && account.secretKey != ""

/-- An attempt to store an object. -/
structure Attempt where
  bucketName : String
  key : String
  contentType : String
  access : String
  size : Nat
  deriving DecidableEq

/-- What is done on the way of a file into the bucket. -/
inductive Event where
  | attempted (attempt : Attempt)
  | paused (seconds : Nat)
  deriving DecidableEq

def Event.attempt? : Event → Option Attempt
  | attempted attempt => some attempt
  | paused _ => none

def Event.pause? : Event → Option Nat
  | attempted _ => none
  | paused seconds => some seconds

/-- A run of requests: the bucket, the faults still to come, and what has been done.
An entry without fault and an empty queue let a request through. -/
structure Session (Exception : Type := Empty) where
  bucket : Bucket
  faults : List (Option (Fault Exception))
  events : List Event

namespace Session

variable {Exception : Type}

/-- A run that begins with the given bucket and faults. -/
def begin (bucket : Bucket) (faults : List (Option (Fault Exception))) : Session Exception :=
  ⟨bucket, faults, []⟩

/-- The attempts to store that have been made, in order. -/
def attempts (session : Session Exception) : List Attempt :=
  session.events.filterMap Event.attempt?

/-- The pauses that have been made, in order. -/
def pauses (session : Session Exception) : List Nat :=
  session.events.filterMap Event.pause?

def nextFault (session : Session Exception) : Option (Fault Exception) :=
  session.faults.head?.join

/-- The run after a request has met its fault. -/
def afterRequest (session : Session Exception) : Session Exception :=
  { session with faults := session.faults.tail }

/-- The run after an attempt to store, before its outcome. -/
def afterAttempt (session : Session Exception) (attempt : Attempt) : Session Exception :=
  { session.afterRequest with events := session.events ++ [.attempted attempt] }

/-- The run with an object in the bucket. -/
def keep (session : Session Exception) (key : String) (body : List UInt8) : Session Exception :=
  { session with bucket := Association.bind key body session.bucket }

def pause (session : Session Exception) (seconds : Nat) : Session Exception :=
  { session with events := session.events ++ [.paused seconds] }

end Session

end StaticSite.Storage
