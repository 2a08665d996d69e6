import StaticSite.Proofs.Association
import StaticSite.Storage.Upload

/-!
Contract: what storing files leaves in the bucket.

Owns:
- the bucket after one file, whether or not storing it succeeds;
- the files of a website that are stored, and the bucket after them;
- the keys of all files of a website;
- success of storing when there are no faults.

Does not own: which files a site has (see `StaticSite.Proofs.Site.Documents`).
-/

namespace StaticSite.Storage

/-! ## One file -/

section

variable {Exception : Type}

/-- What one object leaves in a bucket: its bytes under its key if it was stored, and nothing new
otherwise. -/
def bucketAfter (key : String) (body : List UInt8) (bucket : Bucket) :
    Except (StorageError Exception) Unit → Bucket
  | .ok () => Association.bind key body bucket
  | .error _ => bucket

/-- Attempts that fail leave the bucket as it was, and the one that succeeds puts the
object in it. -/
theorem bucket_putObject (account : Account) (key : String) (body : List UInt8)
    (contentType : String) (failed retries : Nat) (session : Session Exception) :
    (putObject account key body contentType failed retries session).1.bucket =
      bucketAfter key body session.bucket
        (putObject account key body contentType failed retries session).2 := by
  induction retries generalizing failed session with
  | zero =>
      unfold putObject
      cases session.nextFault with
      | none => rfl
      | some fault => rfl
  | succ fewer inductionHypothesis =>
      unfold putObject
      cases session.nextFault with
      | none => rfl
      | some fault =>
          cases transient : fault.isTransient with
          | false => simp [transient]; rfl
          | true =>
              simp only [transient, if_true]
              rw [inductionHypothesis]
              rfl

theorem bucket_putWithin (account : Account) (key : String) (body : List UInt8)
    (contentType : String) (attempts : Nat) (session : Session Exception) :
    (putWithin account key body contentType attempts session).1.bucket =
      bucketAfter key body session.bucket
        (putWithin account key body contentType attempts session).2 := by
  cases attempts with
  | zero => rfl
  | succ retries => exact bucket_putObject account key body contentType 0 retries session

end

/-- A text can always be encoded. -/
theorem putFile_utf8 (account : Account) (key : String) (file : Site.File) (attempts : Nat)
    (session : Session) :
    putFile utf8 account key file attempts session =
      putWithin account key (Text.utf8Bytes file.content) file.contentType attempts session :=
  rfl

/-! ## The files of a website -/

/-- The objects that files of a website become, under their keys. -/
def objectsOf (websiteId : String) (files : List (String × Site.File)) : Bucket :=
  files.map fun entry => (fileKey websiteId entry.1, Text.utf8Bytes entry.2.content)

/-- Storing some files succeeds exactly by storing the first and then the others. -/
theorem putFiles_cons_ok {account : Account} {websiteId path : String} {attempts : Nat}
    {file : Site.File} {others : List (String × Site.File)} {session final : Session}
    {keys : List String}
    (stored : putFiles utf8 account websiteId attempts ((path, file) :: others) session =
      (final, .ok keys)) :
    ∃ next restKeys,
      putFile utf8 account (fileKey websiteId path) file attempts session = (next, .ok ()) ∧
      putFiles utf8 account websiteId attempts others next = (final, .ok restKeys) ∧
      keys = fileKey websiteId path :: restKeys := by
  simp only [putFiles] at stored
  cases first : putFile utf8 account (fileKey websiteId path) file attempts session with
  | mk next outcome =>
      cases outcome with
      | error error => simp [first] at stored
      | ok =>
          cases rest : putFiles utf8 account websiteId attempts others next with
          | mk last result =>
              cases result with
              | error error => simp [first, rest, Except.map] at stored
              | ok restKeys =>
                  simp only [first, rest, Except.map, Prod.mk.injEq, Except.ok.injEq] at stored
                  obtain ⟨isFinal, isKeys⟩ := stored
                  exact ⟨next, restKeys, rfl, by rw [rest, isFinal], isKeys.symm⟩

/-! ## Stored files -/

/-- The files of a website that are stored: those ahead of the first that fails. -/
def keptFiles (account : Account) (websiteId : String) (attempts : Nat) :
    List (String × Site.File) → Session → List (String × Site.File)
  | [], _ => []
  | (path, file) :: others, session =>
      match putFile utf8 account (fileKey websiteId path) file attempts session with
      | (_, .error _) => []
      | (next, .ok ()) => (path, file) :: keptFiles account websiteId attempts others next

theorem keptFiles_prefix (account : Account) (websiteId : String) (attempts : Nat)
    (files : List (String × Site.File)) (session : Session) :
    keptFiles account websiteId attempts files session <+: files := by
  induction files generalizing session with
  | nil => exact List.nil_prefix
  | cons entry others inductionHypothesis =>
      obtain ⟨path, file⟩ := entry
      unfold keptFiles
      split
      · exact List.nil_prefix
      · exact (List.prefix_cons_inj _).mpr (inductionHypothesis _)

/-- Whether or not all files are stored, the bucket holds those that are, and nothing else that is
new. -/
theorem bucket_putFiles (account : Account) (websiteId : String) (attempts : Nat)
    (files : List (String × Site.File)) (session : Session) :
    (putFiles utf8 account websiteId attempts files session).1.bucket =
      Association.bindAll (objectsOf websiteId (keptFiles account websiteId attempts files session))
        session.bucket := by
  induction files generalizing session with
  | nil => rfl
  | cons entry others inductionHypothesis =>
      obtain ⟨path, file⟩ := entry
      have firstBucket := bucket_putWithin account (fileKey websiteId path)
        (Text.utf8Bytes file.content) file.contentType attempts session
      rw [← putFile_utf8] at firstBucket
      unfold putFiles keptFiles
      cases first : putFile utf8 account (fileKey websiteId path) file attempts session with
      | mk next outcome =>
          rw [first] at firstBucket
          cases outcome with
          | error error =>
              simp only [first]
              exact firstBucket
          | ok =>
              simp only [first]
              rw [inductionHypothesis, firstBucket]
              rfl

/-- Where storing the files of a website succeeds, all of them are stored, and their keys are the
result. -/
theorem keptFiles_of_ok {account : Account} {websiteId : String} {attempts : Nat}
    {files : List (String × Site.File)} {session final : Session} {keys : List String}
    (stored : putFiles utf8 account websiteId attempts files session = (final, .ok keys)) :
    keptFiles account websiteId attempts files session = files ∧
      keys = (objectsOf websiteId files).map Prod.fst := by
  induction files generalizing session keys with
  | nil =>
      simp only [putFiles, Prod.mk.injEq, Except.ok.injEq] at stored
      exact ⟨rfl, stored.2.symm⟩
  | cons entry others inductionHypothesis =>
      obtain ⟨path, file⟩ := entry
      obtain ⟨next, restKeys, first, rest, isKeys⟩ := putFiles_cons_ok stored
      obtain ⟨allKept, areRestKeys⟩ := inductionHypothesis rest
      constructor
      · unfold keptFiles
        simp only [first, allKept]
      · rw [isKeys, areRestKeys]
        rfl

/-- Storing all files of a website puts every one of them under its key, in order. -/
theorem putFiles_ok {account : Account} {websiteId : String} {attempts : Nat}
    {files : List (String × Site.File)} {session final : Session} {keys : List String}
    (stored : putFiles utf8 account websiteId attempts files session = (final, .ok keys)) :
    final.bucket = Association.bindAll (objectsOf websiteId files) session.bucket ∧
      keys = (objectsOf websiteId files).map Prod.fst := by
  obtain ⟨allKept, areKeys⟩ := keptFiles_of_ok stored
  have isBucket := bucket_putFiles account websiteId attempts files session
  rw [stored, allKept] at isBucket
  exact ⟨isBucket, areKeys⟩

/-- The files of a website that an upload stores. -/
def uploadedFiles (account : Account) (websiteId : String) (files : List (String × Site.File))
    (retries : Int) (session : Session) : List (String × Site.File) :=
  if account.isComplete then
    keptFiles account websiteId (retries + 1).toNat files session
  else
    []

theorem uploadedFiles_prefix (account : Account) (websiteId : String)
    (files : List (String × Site.File)) (retries : Int) (session : Session) :
    uploadedFiles account websiteId files retries session <+: files := by
  unfold uploadedFiles
  split
  · exact keptFiles_prefix account websiteId _ files session
  · exact List.nil_prefix

theorem bucket_upload (account : Account) (websiteId : String)
    (files : List (String × Site.File)) (retries : Int) (session : Session) :
    (upload account websiteId files retries session).1.bucket =
      Association.bindAll
        (objectsOf websiteId (uploadedFiles account websiteId files retries session))
        session.bucket := by
  unfold upload uploadWith uploadedFiles
  split
  · exact bucket_putFiles account websiteId _ files session
  · rfl

/-- An upload that succeeds needs a complete account, and puts every file of the website
under its key, in order. -/
theorem upload_ok {account : Account} {websiteId : String}
    {files : List (String × Site.File)} {retries : Int} {session final : Session}
    {keys : List String}
    (uploaded : upload account websiteId files retries session = (final, .ok keys)) :
    account.isComplete = true ∧
      final.bucket = Association.bindAll (objectsOf websiteId files) session.bucket ∧
      keys = (objectsOf websiteId files).map Prod.fst := by
  unfold upload uploadWith at uploaded
  split at uploaded
  · rename_i complete
    exact ⟨complete, putFiles_ok uploaded⟩
  · simp at uploaded

/-! ## Storing without faults -/

theorem putFile_of_no_faults (account : Account) (key : String) (file : Site.File)
    (retries : Nat) {session : Session} (noFaults : session.faults = []) :
    ∃ final, putFile utf8 account key file (retries + 1) session = (final, .ok ()) ∧
      final.faults = [] := by
  refine ⟨(session.afterAttempt (attemptOf account key (Text.utf8Bytes file.content)
    file.contentType)).keep key (Text.utf8Bytes file.content), ?_, ?_⟩
  · have noFault : session.nextFault = none := by simp [Session.nextFault, noFaults]
    rw [putFile_utf8]
    unfold putWithin putObject
    cases retries <;> simp [noFault]
  · simp [Session.keep, Session.afterAttempt, Session.afterRequest, noFaults]

theorem putFiles_of_no_faults (account : Account) (websiteId : String) (retries : Nat)
    (files : List (String × Site.File)) {session : Session} (noFaults : session.faults = []) :
    ∃ final keys, putFiles utf8 account websiteId (retries + 1) files session = (final, .ok keys) := by
  induction files generalizing session with
  | nil => exact ⟨session, [], rfl⟩
  | cons entry others inductionHypothesis =>
      obtain ⟨path, file⟩ := entry
      obtain ⟨next, isNext, nextFaults⟩ :=
        putFile_of_no_faults account (fileKey websiteId path) file retries noFaults
      obtain ⟨final, keys, rest⟩ := inductionHypothesis nextFaults
      refine ⟨final, fileKey websiteId path :: keys, ?_⟩
      unfold putFiles
      simp [isNext, rest, Except.map]

/-- With a complete account and without faults, an upload succeeds. -/
theorem upload_of_no_faults {account : Account} (complete : account.isComplete = true)
    (websiteId : String) (files : List (String × Site.File)) {session : Session}
    (noFaults : session.faults = []) :
    ∃ final keys, upload account websiteId files defaultRetries session = (final, .ok keys) := by
  unfold upload uploadWith
  simp only [complete, if_true]
  exact putFiles_of_no_faults account websiteId 1 files noFaults

end StaticSite.Storage
