import StaticSite.Proofs.Storage.Reachability

/-!
Contract: which attempts an upload makes.

Owns:
- the faults that an attempt may be repeated after, one by one;
- the course of the attempts to store one file, the rule that it keeps to, and what it leaves in
  the log;
- the run that the courses of several files make;
- the law that an upload takes the files in order, attempts each as often as its faults allow,
  and ends with the keys or with the fault of its last attempt.

Does not own: the order of the files (see `StaticSite.Site.Files`).

All of this holds whatever else a request can raise, and whatever encodes the content of files: a
file that cannot be encoded ends the upload ahead of its first attempt.
-/

namespace StaticSite.Storage

open StaticSite.Site

variable {Exception : Type}

/-! ## Attempts at one object -/

/-- Whether an attempt may be repeated after a fault: the network was down, or storage refused for
one of the reasons that may pass. -/
def Fault.MayPass (fault : Fault Exception) : Prop :=
  fault = .networkDown ∨
    ∃ code ∈ ["RequestTimeout", "ServiceUnavailable", "ThrottlingException", "Throttling",
      "SlowDown"], fault = .refused code

theorem Fault.mayPass_iff (fault : Fault Exception) : fault.MayPass ↔ fault.isTransient = true := by
  cases fault with
  | networkDown => exact ⟨fun _ => rfl, fun _ => Or.inl rfl⟩
  | refused code => simp [MayPass, isTransient, transientCodes]
  | raised exception => simp [MayPass, isTransient]

/-- What became of the attempts at one object: the faults after which the attempt was repeated, and
what the last attempt met. -/
structure Tries (Exception : Type) where
  repeated : List (Fault Exception)
  last : Option (Fault Exception)

namespace Tries

/-- What the attempts met, in order. -/
def outcomes (tries : Tries Exception) : List (Option (Fault Exception)) :=
  tries.repeated.map some ++ [tries.last]

theorem length_outcomes (tries : Tries Exception) :
    tries.outcomes.length = tries.repeated.length + 1 := by
  rw [outcomes, List.length_append, List.length_map, List.length_singleton]

/-- What the attempts leave in the log if `failed` ones have failed before: after each that is
repeated comes a pause, twice as long as the one before, and the last one comes at the end. -/
def eventsFrom (attempt : Attempt) (failed : Nat) (tries : Tries Exception) : List Event :=
  (List.range' failed tries.repeated.length).flatMap
      (fun number => [.attempted attempt, .paused (Nat.pow 2 number)]) ++
    [.attempted attempt]

def result (tries : Tries Exception) : Except (StorageError Exception) Unit :=
  match tries.last with
  | none => .ok ()
  | some fault => .error (.failed .put fault)

/-- The rule that attempts keep to: only faults that may pass are repeated after, not more often
than there are retries, and a fault is the last outcome only if it may not be repeated after. -/
structure KeepsTo (retries : Nat) (tries : Tries Exception) : Prop where
  bounded : tries.repeated.length ≤ retries
  mayPass : ∀ fault ∈ tries.repeated, fault.MayPass
  givesUp : ∀ fault, tries.last = some fault →
    ¬ fault.MayPass ∨ tries.repeated.length = retries

end Tries

/-- What the next requests meet, for a queue of faults. -/
def upcoming (faults : List (Option (Fault Exception))) (count : Nat) :
    List (Option (Fault Exception)) :=
  (List.range count).map fun position => faults[position]?.join

theorem upcoming_add (faults : List (Option (Fault Exception))) (count more : Nat) :
    upcoming faults (count + more) = upcoming faults count ++ upcoming (faults.drop count) more := by
  unfold upcoming
  rw [List.range_add, List.map_append, List.map_map]
  congr 1
  apply List.map_congr_left
  intro position _
  rw [Function.comp_apply, List.getElem?_drop]

theorem upcoming_succ (faults : List (Option (Fault Exception))) (count : Nat) :
    upcoming faults (count + 1) = faults.head?.join :: upcoming faults.tail count := by
  rw [Nat.add_comm, upcoming_add, List.drop_one, List.head?_eq_getElem?]
  rfl

section

variable (account : Account) (key : String) (body : List UInt8) (contentType : String)
  (failed : Nat) (session : Session Exception)

/-- The run after the attempts at an object. -/
def Session.afterTries (tries : Tries Exception) : Session Exception :=
  { bucket := bucketAfter key body session.bucket tries.result
    faults := session.faults.drop (tries.repeated.length + 1)
    events := session.events ++
      tries.eventsFrom (attemptOf account key body contentType) failed }

/-- An attempt is the last one unless it meets a fault that may pass and retries are left. -/
theorem putObject_of_final {retries : Nat}
    (final : ∀ fault, session.nextFault = some fault → ¬ fault.MayPass ∨ retries = 0) :
    putObject account key body contentType failed retries session =
      (session.afterTries account key body contentType failed ⟨[], session.nextFault⟩,
        Tries.result ⟨[], session.nextFault⟩) := by
  unfold putObject
  cases isNext : session.nextFault with
  | none =>
      simp [Session.afterTries, Session.keep, Session.afterAttempt, Session.afterRequest,
        Tries.result, Tries.eventsFrom, bucketAfter]
  | some fault =>
      cases retries with
      | zero =>
          simp [Session.afterTries, Session.afterAttempt, Session.afterRequest, Tries.result,
            Tries.eventsFrom, bucketAfter]
      | succ fewer =>
          have permanent : ¬ fault.isTransient = true := by
            rw [← fault.mayPass_iff]
            exact (final fault isNext).resolve_right (Nat.succ_ne_zero fewer)
          simp [permanent, Session.afterTries, Session.afterAttempt, Session.afterRequest,
            Tries.result, Tries.eventsFrom, bucketAfter]

/-- After a fault that may pass and a pause, the attempt is repeated with one retry less. -/
theorem putObject_of_mayPass {fewer : Nat} {fault : Fault Exception}
    (isNext : session.nextFault = some fault) (mayPass : fault.MayPass) :
    putObject account key body contentType failed (fewer + 1) session =
      putObject account key body contentType (failed + 1) fewer
        ((session.afterAttempt (attemptOf account key body contentType)).pause
          (Nat.pow 2 failed)) := by
  rw [putObject]
  simp only [isNext, fault.mayPass_iff.mp mayPass, if_true]

/-- The attempts after a repeated one go on with the queue and the log that it leaves. -/
theorem afterTries_pause (fault : Fault Exception) (repeated : List (Fault Exception))
    (last : Option (Fault Exception)) :
    ((session.afterAttempt (attemptOf account key body contentType)).pause
        (Nat.pow 2 failed)).afterTries account key body contentType (failed + 1)
          ⟨repeated, last⟩ =
      session.afterTries account key body contentType failed ⟨fault :: repeated, last⟩ := by
  unfold Session.afterTries
  simp only [Session.pause, Session.afterAttempt, Session.afterRequest, List.drop_tail,
    List.length_cons, Tries.eventsFrom, List.range'_succ, List.flatMap_cons, List.append_assoc]
  rfl

/-- How storing an object goes on after some failed attempts: which of the attempts that are left
are made, and what they leave. -/
structure GoesOn (retries : Nat) (tries : Tries Exception) : Prop where
  keeps : tries.KeepsTo retries
  met : tries.outcomes = upcoming session.faults (tries.repeated.length + 1)
  run : putObject account key body contentType failed retries session =
    (session.afterTries account key body contentType failed tries, tries.result)

theorem goesOn_of_final {retries : Nat}
    (final : ∀ fault, session.nextFault = some fault → ¬ fault.MayPass ∨ retries = 0) :
    GoesOn account key body contentType failed session retries ⟨[], session.nextFault⟩ := by
  constructor
  case keeps =>
    refine ⟨Nat.zero_le retries, ?_, ?_⟩
    · exact fun _ member => absurd member List.not_mem_nil
    · exact fun fault isNext => (final fault isNext).imp_right Eq.symm
  case met => exact (upcoming_succ session.faults 0).symm
  case run => exact putObject_of_final account key body contentType failed session final

theorem goesOn_of_mayPass {fewer : Nat} {fault : Fault Exception}
    {repeated : List (Fault Exception)} {last : Option (Fault Exception)}
    (isNext : session.nextFault = some fault) (mayPass : fault.MayPass)
    (goesOn : GoesOn account key body contentType (failed + 1)
      ((session.afterAttempt (attemptOf account key body contentType)).pause (Nat.pow 2 failed))
      fewer ⟨repeated, last⟩) :
    GoesOn account key body contentType failed session (fewer + 1) ⟨fault :: repeated, last⟩ := by
  constructor
  case keeps =>
    refine ⟨Nat.succ_le_succ goesOn.keeps.bounded, ?_, ?_⟩
    · exact List.forall_mem_cons.mpr ⟨mayPass, goesOn.keeps.mayPass⟩
    · intro final isFinal
      exact (goesOn.keeps.givesUp final isFinal).imp_right (congrArg Nat.succ)
  case met =>
    rw [List.length_cons, upcoming_succ, ← Session.nextFault, isNext]
    exact congrArg (some fault :: ·) goesOn.met
  case run =>
    rw [putObject_of_mayPass account key body contentType failed session isNext mayPass,
      goesOn.run, afterTries_pause]
    rfl

theorem exists_goesOn (retries : Nat) :
    ∃ tries, GoesOn account key body contentType failed session retries tries := by
  induction retries generalizing failed session with
  | zero =>
      exact ⟨_, goesOn_of_final account key body contentType failed session fun _ _ => Or.inr rfl⟩
  | succ fewer inductionHypothesis =>
      have stops (final : ∀ fault, session.nextFault = some fault → ¬ fault.MayPass) :=
        goesOn_of_final account key body contentType failed session
          (fun fault isNext => (Or.inl (final fault isNext) : _ ∨ fewer + 1 = 0))
      cases isNext : session.nextFault with
      | none => exact ⟨_, stops fun fault isFault => by rw [isNext] at isFault; cases isFault⟩
      | some fault =>
          by_cases mayPass : fault.MayPass
          · obtain ⟨tries, goesOn⟩ := inductionHypothesis (failed + 1)
              ((session.afterAttempt (attemptOf account key body contentType)).pause
                (Nat.pow 2 failed))
            exact ⟨_, goesOn_of_mayPass account key body contentType failed session isNext mayPass
              goesOn⟩
          · refine ⟨_, stops fun other isOther => ?_⟩
            rw [← Option.some.inj (isNext.symm.trans isOther)]
            exact mayPass

end

/-! ## Courses -/

/-- What became of one file: the bytes that its content was encoded as, and the attempts to store
them. -/
structure Course (Exception : Type) extends Tries Exception where
  path : String
  file : File
  body : List UInt8

namespace Course

/-- The file of a course with its path. -/
def entry (course : Course Exception) : String × File :=
  (course.path, course.file)

/-- Each of the attempts of a course, which are all alike. -/
def attempt (account : Account) (websiteId : String) (course : Course Exception) : Attempt :=
  { bucketName := account.bucketName
    key := fileKey websiteId course.path
    contentType := course.file.contentType ++ "; charset=utf-8"
    access := "public-read"
    size := course.body.length }

/-- What a course leaves in the log: the attempts, and behind each but the last a pause, of one
second at first and then of twice the length of the one before. -/
def events (account : Account) (websiteId : String) (course : Course Exception) : List Event :=
  course.eventsFrom (course.attempt account websiteId) 0

/-- The object that a course leaves if its last attempt succeeds. -/
def objects (websiteId : String) (course : Course Exception) : Bucket :=
  match course.last with
  | none => [(fileKey websiteId course.path, course.body)]
  | some _ => []

end Course

def Session.afterCourse (account : Account) (websiteId : String) (session : Session Exception)
    (course : Course Exception) : Session Exception :=
  { bucket := Association.bindAll (course.objects websiteId) session.bucket
    faults := session.faults.drop (course.repeated.length + 1)
    events := session.events ++ course.events account websiteId }

def Session.afterCourses (account : Account) (websiteId : String) (session : Session Exception)
    (courses : List (Course Exception)) : Session Exception :=
  courses.foldl (Session.afterCourse account websiteId) session

/-- What the attempts of some courses in a row met. -/
def outcomesOf (courses : List (Course Exception)) : List (Option (Fault Exception)) :=
  courses.flatMap fun course => course.outcomes

theorem afterCourses_eq (account : Account) (websiteId : String) (session : Session Exception)
    (courses : List (Course Exception)) :
    session.afterCourses account websiteId courses =
      { bucket := Association.bindAll (courses.flatMap (·.objects websiteId)) session.bucket
        faults := session.faults.drop (outcomesOf courses).length
        events := session.events ++ courses.flatMap (·.events account websiteId) } := by
  induction courses generalizing session with
  | nil => simp [Session.afterCourses, outcomesOf, Association.bindAll]
  | cons course others inductionHypothesis =>
      have later : session.afterCourses account websiteId (course :: others) =
          (session.afterCourse account websiteId course).afterCourses account websiteId others :=
        rfl
      rw [later, inductionHypothesis]
      simp [Session.afterCourse, outcomesOf, Association.bindAll, Tries.length_outcomes]

theorem bindAll_objects (websiteId : String) (course : Course Exception) (bucket : Bucket) :
    Association.bindAll (course.objects websiteId) bucket =
      bucketAfter (fileKey websiteId course.path) course.body bucket course.result := by
  obtain ⟨⟨repeated, last⟩, path, file, body⟩ := course
  cases last <;> rfl

section

variable (encode : String → Except Exception (List UInt8)) (account : Account)
  (websiteId : String)

/-- Whether a course is that of a file: of the file as it is encoded, by the rule, and as the queue
of faults has it. -/
structure Course.IsOf (course : Course Exception) (path : String) (file : File) (retries : Nat)
    (session : Session Exception) : Prop where
  isEntry : course.entry = (path, file)
  encoded : encode course.file.content = .ok course.body
  keeps : course.KeepsTo retries
  met : course.outcomes = upcoming session.faults (course.repeated.length + 1)

/-- A file that can be encoded is stored by a course of its own. -/
theorem exists_isOf (path : String) {file : File} {body : List UInt8}
    (encoded : encode file.content = .ok body) (retries : Nat) (session : Session Exception) :
    ∃ course : Course Exception, course.IsOf encode path file retries session ∧
      putFile encode account (fileKey websiteId path) file (retries + 1) session =
        (session.afterCourse account websiteId course, course.result) := by
  obtain ⟨tries, goesOn⟩ :=
    exists_goesOn account (fileKey websiteId path) body file.contentType 0 session retries
  refine ⟨⟨tries, path, file, body⟩, ⟨rfl, encoded, goesOn.keeps, goesOn.met⟩, ?_⟩
  rw [putFile, encoded]
  dsimp only
  rw [putWithin, goesOn.run, Session.afterTries, Session.afterCourse, bindAll_objects]
  rfl

/-! ## All files -/

/-- How the courses of some files end. -/
inductive Ends (files : List (String × File)) (courses : List (Course Exception)) :
    Except (StorageError Exception) (List String) → Prop where
  /-- Each file is stored, and the keys are reported. -/
  | stored (allFiles : courses.map Course.entry = files)
      (allStored : ∀ course ∈ courses, course.last = none) :
      Ends files courses (.ok (files.map fun entry => fileKey websiteId entry.1))
  /-- A first file is not stored, and its last fault is reported. -/
  | failed {before : List (Course Exception)} {failing : Course Exception}
      {rest : List (String × File)} {fault : Fault Exception}
      (isCourses : courses = before ++ [failing])
      (isFiles : files = before.map Course.entry ++ failing.entry :: rest)
      (allStored : ∀ course ∈ before, course.last = none) (isLast : failing.last = some fault) :
      Ends files courses (.error (.failed .put fault))
  /-- The files ahead of one that cannot be encoded are stored, and what encoding raises is
  reported. -/
  | unencodable {path : String} {file : File} {rest : List (String × File)} {exception : Exception}
      (isFiles : files = courses.map Course.entry ++ (path, file) :: rest)
      (allStored : ∀ course ∈ courses, course.last = none)
      (fails : encode file.content = .error exception) :
      Ends files courses (.error (.unencodable exception))

/-- How courses make up the storing of some files. -/
structure Follows (files : List (String × File)) (retries : Nat) (session : Session Exception)
    (courses : List (Course Exception))
    (run : Session Exception × Except (StorageError Exception) (List String)) : Prop where
  inOrder : courses.map Course.entry <+: files
  encoded : ∀ course ∈ courses, encode course.file.content = .ok course.body
  keeps : ∀ course ∈ courses, course.KeepsTo retries
  met : outcomesOf courses = upcoming session.faults (outcomesOf courses).length
  left : run.1 = session.afterCourses account websiteId courses
  ends : Ends encode websiteId files courses run.2

end

section

variable {encode : String → Except Exception (List UInt8)} {account : Account} {websiteId : String}

theorem Ends.cons {files : List (String × File)} {course : Course Exception}
    {courses : List (Course Exception)} {result : Except (StorageError Exception) (List String)}
    (ends : Ends encode websiteId files courses result) (stored : course.last = none) :
    Ends encode websiteId (course.entry :: files) (course :: courses)
      (result.map (fileKey websiteId course.path :: ·)) := by
  cases ends with
  | stored allFiles allStored =>
      exact .stored (congrArg (course.entry :: ·) allFiles)
        (List.forall_mem_cons.mpr ⟨stored, allStored⟩)
  | @failed before failing rest _ isCourses isFiles allStored isLast =>
      have allFiles : course.entry :: files =
          (course :: before).map Course.entry ++ failing.entry :: rest :=
        congrArg (course.entry :: ·) isFiles
      exact .failed (congrArg (course :: ·) isCourses) allFiles
        (List.forall_mem_cons.mpr ⟨stored, allStored⟩) isLast
  | unencodable isFiles allStored fails =>
      exact .unencodable (congrArg (course.entry :: ·) isFiles)
        (List.forall_mem_cons.mpr ⟨stored, allStored⟩) fails

theorem putFiles_cons_of_stored {path : String} {attempts : Nat} {file : File}
    {session next : Session Exception}
    (stored : putFile encode account (fileKey websiteId path) file attempts session =
      (next, .ok ())) (others : List (String × File)) :
    putFiles encode account websiteId attempts ((path, file) :: others) session =
      ((putFiles encode account websiteId attempts others next).1,
        (putFiles encode account websiteId attempts others next).2.map
          (fileKey websiteId path :: ·)) := by
  rw [putFiles]
  simp only [stored]

theorem putFiles_cons_of_failed {path : String} {attempts : Nat} {file : File}
    {session next : Session Exception} {error : StorageError Exception}
    (failed : putFile encode account (fileKey websiteId path) file attempts session =
      (next, .error error)) (others : List (String × File)) :
    putFiles encode account websiteId attempts ((path, file) :: others) session =
      (next, .error error) := by
  rw [putFiles]
  simp only [failed]

/-- Where no file has a course, nothing is done. -/
theorem follows_nothing {files : List (String × File)} {retries : Nat}
    {session : Session Exception} {result : Except (StorageError Exception) (List String)}
    (ends : Ends encode websiteId files [] result) :
    Follows encode account websiteId files retries session [] (session, result) where
  inOrder := List.nil_prefix
  encoded := List.forall_mem_nil _
  keeps := List.forall_mem_nil _
  met := rfl
  left := rfl
  ends := ends

section

variable {path : String} {file : File} {others : List (String × File)} {retries : Nat}
  {session : Session Exception} {course : Course Exception}
  (isOf : course.IsOf encode path file retries session)

include isOf

/-- No file has a course after one that does not store its file. -/
theorem Course.IsOf.follows {fault : Fault Exception} (isLast : course.last = some fault) :
    Follows encode account websiteId ((path, file) :: others) retries session [course]
      (session.afterCourse account websiteId course, .error (.failed .put fault)) := by
  constructor
  case inOrder =>
    rw [List.map_singleton, isOf.isEntry]
    exact (List.prefix_cons_inj _).mpr List.nil_prefix
  case encoded => exact List.forall_mem_singleton.mpr isOf.encoded
  case keeps => exact List.forall_mem_singleton.mpr isOf.keeps
  case met =>
    rw [outcomesOf, List.flatMap_singleton, Tries.length_outcomes]
    exact isOf.met
  case left => rfl
  case ends =>
    rw [← isOf.isEntry]
    exact .failed (List.nil_append [course]).symm rfl (List.forall_mem_nil _) isLast

/-- Courses of the other files go on from a course that stores the first one. -/
theorem Follows.cons {courses : List (Course Exception)} (isLast : course.last = none)
    (stored : putFile encode account (fileKey websiteId path) file (retries + 1) session =
      (session.afterCourse account websiteId course, .ok ()))
    (follows : Follows encode account websiteId others retries
      (session.afterCourse account websiteId course) courses
      (putFiles encode account websiteId (retries + 1) others
        (session.afterCourse account websiteId course))) :
    Follows encode account websiteId ((path, file) :: others) retries session (course :: courses)
      (putFiles encode account websiteId (retries + 1) ((path, file) :: others) session) := by
  obtain ⟨samePath, -⟩ := Prod.mk.inj isOf.isEntry
  rw [putFiles_cons_of_stored stored]
  constructor
  case inOrder =>
    rw [List.map_cons, isOf.isEntry]
    exact (List.prefix_cons_inj _).mpr follows.inOrder
  case encoded => exact List.forall_mem_cons.mpr ⟨isOf.encoded, follows.encoded⟩
  case keeps => exact List.forall_mem_cons.mpr ⟨isOf.keeps, follows.keeps⟩
  case met =>
    rw [outcomesOf, List.flatMap_cons, List.length_append, upcoming_add, Tries.length_outcomes,
      ← isOf.met]
    exact congrArg (course.outcomes ++ ·) follows.met
  case left => exact follows.left
  case ends =>
    rw [← isOf.isEntry, ← samePath]
    exact follows.ends.cons isLast

end

variable (encode account websiteId)

theorem exists_follows_putFiles (retries : Nat) (files : List (String × File))
    (session : Session Exception) :
    ∃ courses, Follows encode account websiteId files retries session courses
      (putFiles encode account websiteId (retries + 1) files session) := by
  induction files generalizing session with
  | nil => exact ⟨[], follows_nothing (.stored rfl (List.forall_mem_nil _))⟩
  | cons entry others inductionHypothesis =>
      obtain ⟨path, file⟩ := entry
      cases isEncoded : encode file.content with
      | error exception =>
          have failed : putFile encode account (fileKey websiteId path) file (retries + 1) session =
              (session, .error (.unencodable exception)) := by
            rw [putFile, isEncoded]
          rw [putFiles_cons_of_failed failed]
          exact ⟨[], follows_nothing (.unencodable rfl (List.forall_mem_nil _) isEncoded)⟩
      | ok body =>
          obtain ⟨course, isOf, isRun⟩ :=
            exists_isOf encode account websiteId path isEncoded retries session
          cases isLast : course.last with
          | some fault =>
              rw [Tries.result, isLast] at isRun
              rw [putFiles_cons_of_failed isRun]
              exact ⟨[course], isOf.follows isLast⟩
          | none =>
              rw [Tries.result, isLast] at isRun
              obtain ⟨courses, follows⟩ :=
                inductionHypothesis (session.afterCourse account websiteId course)
              exact ⟨_, .cons isOf isLast isRun follows⟩

/-! ## The bucket and the answer -/

/-- What an upload does.  The files are taken in order, each as it is encoded and by a course that
keeps to the rule; together the courses meet what the queue of faults holds, one entry for each
attempt. -/
structure TakesCourses (files : List (String × File)) (retries : Nat) (session : Session Exception)
    (courses : List (Course Exception))
    (run : Session Exception × Except (StorageError Exception) (List String)) : Prop where
  inOrder : courses.map Course.entry <+: files
  encoded : ∀ course ∈ courses, encode course.file.content = .ok course.body
  keeps : ∀ course ∈ courses, course.KeepsTo retries
  met : outcomesOf courses = upcoming session.faults (outcomesOf courses).length
  /-- Nothing but the attempts and the pauses of the courses is done, in their order. -/
  events : run.1.events = session.events ++ courses.flatMap (·.events account websiteId)
  ends : Ends encode websiteId files courses run.2
  /-- Keys are reported exactly if every file had an attempt that succeeded. -/
  succeeds_iff : (∃ keys, run.2 = .ok keys) ↔
    ∀ entry ∈ files, ∃ course ∈ courses, course.last = none ∧ course.entry = entry
  /-- An error is the fault that the very last attempt met, unless there is a file that cannot be
  encoded: then no attempt at it is made, and the error is what encoding raises. -/
  lastFault : ∀ error, run.2 = .error error →
    (∃ fault, (outcomesOf courses).getLast? = some (some fault) ∧ error = .failed .put fault) ∨
      ∃ entry exception, files[courses.length]? = some entry ∧
        encode entry.2.content = .error exception ∧ error = .unencodable exception
  stored : ∀ course ∈ courses, course.last = none →
    run.1.bucket.lookup (fileKey websiteId course.path) = some course.body
  unchanged : ∀ key,
    (∀ course ∈ courses, course.last = none → fileKey websiteId course.path ≠ key) →
      run.1.bucket.lookup key = session.bucket.lookup key

variable {encode account websiteId}

theorem mem_objects_iff {courses : List (Course Exception)} {object : String × List UInt8} :
    object ∈ courses.flatMap (·.objects websiteId) ↔
      ∃ course ∈ courses, course.last = none ∧
        (fileKey websiteId course.path, course.body) = object := by
  rw [List.mem_flatMap]
  refine exists_congr fun course => and_congr_right fun _ => ?_
  unfold Course.objects
  cases course.last <;> simp [eq_comm]

/-- The objects of courses with different paths have different keys. -/
theorem nodup_names_objects {courses : List (Course Exception)}
    (distinct : ((courses.map Course.entry).map Prod.fst).Nodup) :
    ((courses.flatMap (·.objects websiteId)).map Prod.fst).Nodup := by
  have keys : (courses.flatMap (·.objects websiteId)).map Prod.fst =
      ((courses.filter fun course => course.last.isNone).map (·.path)).map (fileKey websiteId) := by
    clear distinct
    induction courses with
    | nil => rfl
    | cons course others inductionHypothesis =>
        rw [List.flatMap_cons, List.map_append, inductionHypothesis, Course.objects]
        cases isLast : course.last <;> simp [isLast]
  have paths : (courses.map Course.entry).map Prod.fst = courses.map (·.path) := by
    rw [List.map_map]
    rfl
  rw [keys]
  rw [paths] at distinct
  exact (distinct.sublist (List.filter_sublist.map _)).map fun _ _ => fileKey_inj

variable {files : List (String × File)} {retries : Nat} {session : Session Exception}
  {courses : List (Course Exception)}
  {run : Session Exception × Except (StorageError Exception) (List String)}

namespace Follows

theorem bucket_eq (follows : Follows encode account websiteId files retries session courses run) :
    run.1.bucket =
      Association.bindAll (courses.flatMap (·.objects websiteId)) session.bucket := by
  rw [follows.left, afterCourses_eq]

theorem nodup_paths (follows : Follows encode account websiteId files retries session courses run)
    (distinct : (files.map Prod.fst).Nodup) :
    ((courses.map Course.entry).map Prod.fst).Nodup :=
  distinct.sublist (follows.inOrder.sublist.map Prod.fst)

/-- The bucket holds the files of the courses that end well. -/
theorem lookup_stored
    (follows : Follows encode account websiteId files retries session courses run)
    (distinct : (files.map Prod.fst).Nodup) {course : Course Exception} (member : course ∈ courses)
    (isStored : course.last = none) :
    run.1.bucket.lookup (fileKey websiteId course.path) = some course.body := by
  have distinctKeys : ((courses.flatMap (·.objects websiteId)).map Prod.fst).Nodup :=
    nodup_names_objects (follows.nodup_paths distinct)
  have found := (Association.lookup_eq_some_iff_of_nodup distinctKeys _ _).mpr
    (mem_objects_iff.mpr ⟨course, member, isStored, rfl⟩)
  rw [follows.bucket_eq, Association.lookup_bindAll,
    Association.lookup_reverse_of_nodup distinctKeys, found]
  rfl

/-- What the bucket holds under any other key is not changed. -/
theorem lookup_unchanged
    (follows : Follows encode account websiteId files retries session courses run) {key : String}
    (other : ∀ course ∈ courses, course.last = none → fileKey websiteId course.path ≠ key) :
    run.1.bucket.lookup key = session.bucket.lookup key := by
  have noObject : (courses.flatMap (·.objects websiteId)).reverse.lookup key = none := by
    apply Association.lookup_eq_none_of_not_mem
    intro isKey
    obtain ⟨object, isObject, rfl⟩ := List.mem_map.mp isKey
    obtain ⟨course, member, isStored, rfl⟩ := mem_objects_iff.mp (List.mem_reverse.mp isObject)
    exact other course member isStored rfl
  rw [follows.bucket_eq, Association.lookup_bindAll, noObject, Option.none_or]

/-- A file that could not be stored has no other course that did store it. -/
theorem succeeds_iff
    (follows : Follows encode account websiteId files retries session courses run)
    (distinct : (files.map Prod.fst).Nodup) :
    (∃ keys, run.2 = .ok keys) ↔
      ∀ entry ∈ files, ∃ course ∈ courses, course.last = none ∧ course.entry = entry := by
  have distinctFiles : files.Nodup := distinct.of_map
  obtain ⟨next, result⟩ := run
  cases follows.ends with
  | stored allFiles allStored =>
      refine ⟨fun _ entry isFile => ?_, fun _ => ⟨_, rfl⟩⟩
      rw [← allFiles] at isFile
      obtain ⟨course, member, isEntry⟩ := List.mem_map.mp isFile
      exact ⟨course, member, allStored course member, isEntry⟩
  | @failed before failing rest fault isCourses isFiles allStored isLast =>
      constructor
      · rintro ⟨keys, isOk⟩
        cases isOk
      · intro allFilesStored
        obtain ⟨course, member, isStored, isEntry⟩ := allFilesStored failing.entry
          (isFiles ▸ List.mem_append_right _ List.mem_cons_self)
        have isFailing : failing ∈ courses :=
          isCourses ▸ List.mem_append_right _ (List.mem_singleton_self failing)
        have same := List.inj_on_of_nodup_map (follows.nodup_paths distinct).of_map member isFailing
          isEntry
        rw [same, isLast] at isStored
        cases isStored
  | @unencodable path file rest exception isFiles allStored fails =>
      constructor
      · rintro ⟨keys, isOk⟩
        cases isOk
      · intro allFilesStored
        obtain ⟨course, member, -, isEntry⟩ := allFilesStored (path, file)
          (isFiles ▸ List.mem_append_right _ List.mem_cons_self)
        rw [isFiles] at distinctFiles
        have apart := (List.nodup_append.mp distinctFiles).2.2 course.entry
          (List.mem_map_of_mem member) (path, file) List.mem_cons_self
        exact absurd isEntry apart

theorem lastFault
    (follows : Follows encode account websiteId files retries session courses run)
    {error : StorageError Exception} (isError : run.2 = .error error) :
    (∃ fault, (outcomesOf courses).getLast? = some (some fault) ∧ error = .failed .put fault) ∨
      ∃ entry exception, files[courses.length]? = some entry ∧
        encode entry.2.content = .error exception ∧ error = .unencodable exception := by
  have ends := follows.ends
  rw [isError] at ends
  cases ends with
  | @failed before failing rest fault isCourses isFiles allStored isLast =>
      refine Or.inl ⟨fault, ?_, rfl⟩
      simp [isCourses, outcomesOf, Tries.outcomes, isLast]
  | @unencodable path file rest exception isFiles allStored fails =>
      refine Or.inr ⟨(path, file), exception, ?_, fails, rfl⟩
      simp [isFiles]

theorem takesCourses
    (follows : Follows encode account websiteId files retries session courses run)
    (distinct : (files.map Prod.fst).Nodup) :
    TakesCourses encode account websiteId files retries session courses run := by
  constructor
  case inOrder => exact follows.inOrder
  case encoded => exact follows.encoded
  case keeps => exact follows.keeps
  case met => exact follows.met
  case events => rw [follows.left, afterCourses_eq]
  case ends => exact follows.ends
  case succeeds_iff => exact follows.succeeds_iff distinct
  case lastFault => exact fun _ isError => follows.lastFault isError
  case stored => exact fun _ member isStored => follows.lookup_stored distinct member isStored
  case unchanged => exact fun _ other => follows.lookup_unchanged other

end Follows

end

theorem isComplete_iff (account : Account) :
    account.isComplete = true ↔
      account.endpoint ≠ "" ∧ account.accessKey ≠ "" ∧ account.secretKey ≠ "" := by
  simp [Account.isComplete, and_assoc]

def threeFiles : List (String × File) :=
  ["a.txt", "b.txt", "c.txt"].map fun path => (path, ⟨path, path, "text/plain"⟩)

/-- A bucket that holds an older version of one of them, and a file of another website. -/
def olderBucket : Bucket :=
  [("w/b.txt", [1]), ("v/a.txt", [2])]

/-- An encoder that refuses the content of the last one. -/
def pickyEncoder (text : String) : Except String (List UInt8) :=
  if text = "c.txt" then .error text else .ok (Text.utf8Bytes text)

/-- Faults of which the last one is neither a refusal nor a failure of the network. -/
def interruptingFaults : List (Option (Fault String)) :=
  [some .networkDown, none, some (.refused "SlowDown"), some (.raised "no route")]

/-- The event that one of the files is attempted. -/
def attemptAt (key : String) : Event :=
  .attempted ⟨someAccount.bucketName, key, "text/plain; charset=utf-8", "public-read", 5⟩

end StaticSite.Storage
