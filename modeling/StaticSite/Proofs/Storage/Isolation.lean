import StaticSite.Proofs.Storage.Retry
import StaticSite.Proofs.Storage.Work

/-!
Contract: websites are isolated in storage.

Owns:
- runs that go alike because their buckets hold the same under the keys that matter;
- the history of a run, with what each piece of work answers and does;
- the law that a website sees the same whether or not other websites are served.

Does not own: keys (see `StaticSite.Proofs.Storage.Key`).
-/

namespace StaticSite.Storage

open StaticSite.Site

/-! ## Runs that go alike -/

/-- Two runs with the same faults to come and the same log, whose buckets hold the same under
the watched keys. -/
structure Alike (watched : String → Prop) (session other : Session) : Prop where
  faults : session.faults = other.faults
  events : session.events = other.events
  objects : ∀ key, watched key → session.bucket.lookup key = other.bucket.lookup key

/-- Two runs that go alike up to equal results. -/
def AlikeTo {Result : Type} (watched : String → Prop) (run other : Session × Result) : Prop :=
  Alike watched run.1 other.1 ∧ run.2 = other.2

section

variable {watched : String → Prop} {session other : Session}

/-- Runs that are alike end in sessions that are alike, with one result. -/
theorem AlikeTo.exists_eq {Result : Type} {run otherRun : Session × Result}
    (alike : AlikeTo watched run otherRun) :
    ∃ next otherNext result, run = (next, result) ∧ otherRun = (otherNext, result) ∧
      Alike watched next otherNext := by
  obtain ⟨next, result⟩ := run
  obtain ⟨otherNext, otherResult⟩ := otherRun
  obtain ⟨alikeNext, sameResult⟩ := alike
  cases sameResult
  exact ⟨next, otherNext, result, rfl, rfl, alikeNext⟩

theorem alike_begin {bucket otherBucket : Bucket}
    (objects : ∀ key, watched key → bucket.lookup key = otherBucket.lookup key)
    (faults : List (Option Fault)) :
    Alike watched (.begin bucket faults) (.begin otherBucket faults) :=
  ⟨rfl, rfl, objects⟩

theorem Alike.attempts (alike : Alike watched session other) :
    session.attempts = other.attempts :=
  congrArg (List.filterMap Event.attempt?) alike.events

theorem Alike.pauses (alike : Alike watched session other) : session.pauses = other.pauses :=
  congrArg (List.filterMap Event.pause?) alike.events

theorem Alike.nextFault (alike : Alike watched session other) :
    session.nextFault = other.nextFault := by
  rw [Session.nextFault, alike.faults, Session.nextFault]

theorem Alike.afterRequest (alike : Alike watched session other) :
    Alike watched session.afterRequest other.afterRequest :=
  ⟨congrArg List.tail alike.faults, alike.events, alike.objects⟩

theorem Alike.afterAttempt (alike : Alike watched session other) (attempt : Attempt) :
    Alike watched (session.afterAttempt attempt) (other.afterAttempt attempt) :=
  ⟨congrArg List.tail alike.faults, congrArg (· ++ [Event.attempted attempt]) alike.events,
    alike.objects⟩

theorem Alike.pause (alike : Alike watched session other) (seconds : Nat) :
    Alike watched (session.pause seconds) (other.pause seconds) :=
  ⟨alike.faults, congrArg (· ++ [Event.paused seconds]) alike.events, alike.objects⟩

theorem Alike.keep (alike : Alike watched session other) (key : String) (body : List UInt8) :
    Alike watched (session.keep key body) (other.keep key body) := by
  refine ⟨alike.faults, alike.events, fun asked isWatched => ?_⟩
  by_cases same : asked = key
  · rw [same, Session.keep, Session.keep, Association.lookup_bind_self,
      Association.lookup_bind_self]
  · rw [Session.keep, Session.keep, Association.lookup_bind_of_ne same,
      Association.lookup_bind_of_ne same]
    exact alike.objects asked isWatched

/-! ## One step after the other -/

theorem alikeTo_putObject (account : Account) (key : String) (body : List UInt8)
    (contentType : String) (failed retries : Nat) (alike : Alike watched session other) :
    AlikeTo watched (putObject account key body contentType failed retries session)
      (putObject account key body contentType failed retries other) := by
  induction retries generalizing failed session other with
  | zero =>
      have tried := alike.afterAttempt (attemptOf account key body contentType)
      unfold putObject
      rw [alike.nextFault]
      cases other.nextFault with
      | none => exact ⟨tried.keep key _, rfl⟩
      | some fault => exact ⟨tried, rfl⟩
  | succ fewer inductionHypothesis =>
      have tried := alike.afterAttempt (attemptOf account key body contentType)
      unfold putObject
      rw [alike.nextFault]
      cases other.nextFault with
      | none => exact ⟨tried.keep key _, rfl⟩
      | some fault =>
          cases transient : fault.isTransient with
          | false =>
              simp only [transient, Bool.false_eq_true, if_false]
              exact ⟨tried, rfl⟩
          | true =>
              simp only [transient, if_true]
              exact inductionHypothesis (failed + 1) (tried.pause (Nat.pow 2 failed))

theorem alikeTo_putFile (account : Account) (key : String) (file : File) (attempts : Nat)
    (alike : Alike watched session other) :
    AlikeTo watched (putFile utf8 account key file attempts session)
      (putFile utf8 account key file attempts other) := by
  cases attempts with
  | zero => exact ⟨alike, rfl⟩
  | succ retries => exact alikeTo_putObject account key _ file.contentType 0 retries alike

theorem alikeTo_putFiles (account : Account) (websiteId : String) (attempts : Nat)
    (files : List (String × File)) (alike : Alike watched session other) :
    AlikeTo watched (putFiles utf8 account websiteId attempts files session)
      (putFiles utf8 account websiteId attempts files other) := by
  induction files generalizing session other with
  | nil => exact ⟨alike, rfl⟩
  | cons entry others inductionHypothesis =>
      obtain ⟨path, file⟩ := entry
      obtain ⟨next, otherNext, outcome, isFirst, isOther, alikeNext⟩ :=
        (alikeTo_putFile account (fileKey websiteId path) file attempts alike).exists_eq
      simp only [putFiles, isFirst, isOther]
      cases outcome with
      | error error => exact ⟨alikeNext, rfl⟩
      | ok =>
          obtain ⟨alikeRest, sameRest⟩ := inductionHypothesis alikeNext
          exact ⟨alikeRest, congrArg (Except.map _) sameRest⟩

theorem alikeTo_upload (account : Account) (websiteId : String) (files : List (String × File))
    (retries : Int) (alike : Alike watched session other) :
    AlikeTo watched (upload account websiteId files retries session)
      (upload account websiteId files retries other) := by
  unfold upload uploadWith
  split
  · exact alikeTo_putFiles account websiteId _ files alike
  · exact ⟨alike, rfl⟩

/-- A request is answered alike if the key that it asks for is watched. -/
theorem alikeTo_download (account : Account) (websiteId path : String)
    (isWatched : watched (requestKey websiteId path)) (alike : Alike watched session other) :
    AlikeTo watched (download account websiteId path session)
      (download account websiteId path other) := by
  have asked := alike.afterRequest
  unfold download
  split
  · dsimp only
    rw [alike.nextFault, alike.objects _ isWatched]
    cases other.nextFault with
    | none => exact ⟨asked, rfl⟩
    | some fault =>
        cases fault with
        | networkDown => exact ⟨asked, rfl⟩
        | refused code =>
            dsimp only
            split
            · exact ⟨asked, rfl⟩
            · exact ⟨asked, rfl⟩
        | raised exception => exact exception.elim
  · exact ⟨alike, rfl⟩

end

/-! ## Histories -/

/-- What a piece of work is answered with. -/
inductive Answer where
  | stored (result : Except StorageError (List String))
  | fetched (result : Except StorageError (Option Download))

/-- All that the one who asked for a piece of work sees of it. -/
structure Outcome where
  answer : Answer
  attempts : List Attempt
  pauses : List Nat

/-- What a run with a result shows of itself. -/
def outcomeOf {Result : Type} (answer : Result → Answer) (run : Session × Result) : Outcome :=
  ⟨answer run.2, run.1.attempts, run.1.pauses⟩

namespace Work

/-- The website that a piece of work is for. -/
def websiteId : Work → String
  | .store websiteId _ _ _ => websiteId
  | .fetch websiteId _ _ => websiteId

/-- What comes of a piece of work on a bucket. -/
def outcome (account : Account) (bucket : Bucket) : Work → Outcome
  | .store websiteId files retries faults =>
      outcomeOf .stored (upload account websiteId files retries (.begin bucket faults))
  | .fetch websiteId path faults =>
      outcomeOf .fetched (download account websiteId path (.begin bucket faults))

/-- Whether a piece of work is for a website. -/
def isFor (websiteId : String) (work : Work) : Bool :=
  work.websiteId == websiteId

end Work

/-- Pieces of work in a row, each with what comes of it. -/
def history (account : Account) (bucket : Bucket) : List Work → List (Work × Outcome)
  | [] => []
  | work :: others =>
      (work, work.outcome account bucket) :: history account (work.run account bucket) others

/-- The part of a history that is about one website. -/
def historyOf (websiteId : String) (entries : List (Work × Outcome)) : List (Work × Outcome) :=
  entries.filter fun entry => entry.1.isFor websiteId

/-- Pieces of work without those for one website. -/
def withoutWorkFor (websiteId : String) (works : List Work) : List Work :=
  works.filter fun work => !work.isFor websiteId

theorem withoutWorkFor_cons_of_isFor {websiteId : String} {work : Work}
    (isFor : work.isFor websiteId = true) (works : List Work) :
    withoutWorkFor websiteId (work :: works) = withoutWorkFor websiteId works :=
  List.filter_cons_of_neg (by simp [isFor])

theorem withoutWorkFor_cons_of_not_isFor {websiteId : String} {work : Work}
    (notFor : work.isFor websiteId = false) (works : List Work) :
    withoutWorkFor websiteId (work :: works) = work :: withoutWorkFor websiteId works :=
  List.filter_cons_of_pos (by simp [notFor])

/-! ## One website beside another -/

/-- Whether two buckets hold the same under the keys of a website. -/
def SameFiles (websiteId : String) (bucket other : Bucket) : Prop :=
  ∀ path, bucket.lookup (fileKey websiteId path) = other.lookup (fileKey websiteId path)

/-- Whether a key is one of a website. -/
def IsKeyOf (websiteId key : String) : Prop :=
  ∃ path, key = fileKey websiteId path

theorem SameFiles.alike_begin {websiteId : String} {bucket other : Bucket}
    (same : SameFiles websiteId bucket other) (faults : List (Option Fault)) :
    Alike (IsKeyOf websiteId) (.begin bucket faults) (.begin other faults) := by
  apply Storage.alike_begin
  rintro _ ⟨path, rfl⟩
  exact same path

/-- Any piece of work leaves two buckets with the same files of a website the same in this. -/
theorem SameFiles.run {websiteId : String} {bucket other : Bucket}
    (same : SameFiles websiteId bucket other) (account : Account) (work : Work) :
    SameFiles websiteId (work.run account bucket) (work.run account other) := by
  intro path
  cases work with
  | store owner files retries faults =>
      have after := alikeTo_upload account owner files retries (same.alike_begin faults)
      exact after.1.objects _ ⟨path, rfl⟩
  | fetch owner asked faults =>
      rw [Work.run, Work.run, bucket_download, bucket_download]
      exact same path

/-- What comes of work for a website depends on the files of that website only. -/
theorem SameFiles.outcome {websiteId : String} {bucket other : Bucket}
    (same : SameFiles websiteId bucket other) (account : Account) {work : Work}
    (isFor : work.isFor websiteId = true) :
    work.outcome account bucket = work.outcome account other := by
  have owner : work.websiteId = websiteId := beq_iff_eq.mp isFor
  subst owner
  cases work with
  | store owner files retries faults =>
      obtain ⟨after, sameResult⟩ :=
        alikeTo_upload account owner files retries (same.alike_begin faults)
      simp only [Work.outcome, outcomeOf, after.attempts, after.pauses, sameResult]
  | fetch owner path faults =>
      obtain ⟨after, sameResult⟩ :=
        alikeTo_download account owner path ⟨requestedFile path, rfl⟩ (same.alike_begin faults)
      simp only [Work.outcome, outcomeOf, after.attempts, after.pauses, sameResult]

/-- Websites whose ids differ and have no slash. -/
structure AreApart (websiteId other : String) : Prop where
  differs : other ≠ websiteId
  plain : '/' ∉ websiteId.toList
  otherPlain : '/' ∉ other.toList

namespace AreApart

variable {websiteId other : String}

theorem sameFiles_run (apart : AreApart websiteId other) (account : Account) {work : Work}
    (isFor : work.isFor other = true) (bucket : Bucket) :
    SameFiles websiteId (work.run account bucket) bucket := by
  have owner : work.websiteId = other := beq_iff_eq.mp isFor
  have writesNothing : ¬ work.WritesUnder websiteId := by
    cases work with
    | store _ files retries faults =>
        cases owner
        rintro ⟨entry, _, path, same⟩
        exact fileKey_ne_of_ne apart.differs apart.plain apart.otherPlain path entry.1 same
    | fetch _ path faults => exact id
  exact lookup_run writesNothing account bucket

theorem not_isFor_of_isFor (apart : AreApart websiteId other) {work : Work}
    (isFor : work.isFor other = true) : work.isFor websiteId = false := by
  have owner : work.websiteId = other := beq_iff_eq.mp isFor
  rw [Work.isFor, owner]
  exact beq_eq_false_iff_ne.mpr apart.differs

/-- The files of a website are the same after a run with and without the work for another. -/
theorem sameFiles_runAll (apart : AreApart websiteId other) (account : Account)
    (works : List Work) {bucket otherBucket : Bucket}
    (same : SameFiles websiteId bucket otherBucket) :
    SameFiles websiteId (runAll account bucket works)
      (runAll account otherBucket (withoutWorkFor other works)) := by
  induction works generalizing bucket otherBucket with
  | nil => exact same
  | cons work others inductionHypothesis =>
      cases isFor : work.isFor other with
      | true =>
          rw [withoutWorkFor_cons_of_isFor isFor]
          exact inductionHypothesis fun path =>
            (apart.sameFiles_run account isFor bucket path).trans (same path)
      | false =>
          rw [withoutWorkFor_cons_of_not_isFor isFor]
          exact inductionHypothesis (same.run account work)

/-- The history of a website is the same with and without the work for another. -/
theorem historyOf_eq (apart : AreApart websiteId other) (account : Account) (works : List Work)
    {bucket otherBucket : Bucket} (same : SameFiles websiteId bucket otherBucket) :
    historyOf websiteId (history account bucket works) =
      historyOf websiteId (history account otherBucket (withoutWorkFor other works)) := by
  induction works generalizing bucket otherBucket with
  | nil => rfl
  | cons work others inductionHypothesis =>
      cases isFor : work.isFor other with
      | true =>
          have notMine := apart.not_isFor_of_isFor isFor
          rw [withoutWorkFor_cons_of_isFor isFor, history, historyOf,
            List.filter_cons_of_neg (by simp [notMine])]
          exact inductionHypothesis fun path =>
            (apart.sameFiles_run account isFor bucket path).trans (same path)
      | false =>
          have rest := inductionHypothesis (same.run account work)
          rw [withoutWorkFor_cons_of_not_isFor isFor, history, history]
          cases mine : work.isFor websiteId with
          | true =>
              rw [historyOf, historyOf, List.filter_cons_of_pos (by exact mine),
                List.filter_cons_of_pos (by exact mine), same.outcome account mine]
              exact congrArg (_ :: ·) rest
          | false =>
              rw [historyOf, historyOf, List.filter_cons_of_neg (by simp [mine]),
                List.filter_cons_of_neg (by simp [mine])]
              exact rest

end AreApart

/-! ## Keys that are touched -/

theorem attempts_eventsFrom (attempt : Attempt) (failed : Nat) (tries : Tries Empty) :
    ∀ made ∈ (tries.eventsFrom attempt failed).filterMap Event.attempt?, made = attempt := by
  intro made member
  obtain ⟨event, isEvent, isMade⟩ := List.mem_filterMap.mp member
  rcases List.mem_append.mp isEvent with inRepeated | isLast
  · obtain ⟨number, -, ofNumber⟩ := List.mem_flatMap.mp inRepeated
    rcases List.mem_cons.mp ofNumber with rfl | isPause
    · exact (Option.some.inj isMade).symm
    · rw [List.mem_singleton.mp isPause] at isMade
      cases isMade
  · rw [List.mem_singleton.mp isLast] at isMade
    exact (Option.some.inj isMade).symm

theorem mem_attempts_putFile {account : Account} {key : String} {file : File} {attempts : Nat}
    {session : Session} {attempt : Attempt}
    (member : attempt ∈ (putFile utf8 account key file attempts session).1.attempts) :
    attempt ∈ session.attempts ∨ attempt.key = key := by
  cases attempts with
  | zero => exact Or.inl member
  | succ retries =>
      obtain ⟨tries, goesOn⟩ := exists_goesOn account key (Text.utf8Bytes file.content)
        file.contentType 0 session retries
      rw [putFile_utf8, putWithin, goesOn.run, Session.attempts, Session.afterTries,
        List.filterMap_append] at member
      rcases List.mem_append.mp member with before | made
      · exact Or.inl before
      · rw [attempts_eventsFrom _ _ _ attempt made]
        exact Or.inr rfl

theorem mem_attempts_putFiles {account : Account} {websiteId : String} {attempts : Nat}
    {files : List (String × File)} {session : Session} {attempt : Attempt}
    (member : attempt ∈ (putFiles utf8 account websiteId attempts files session).1.attempts) :
    attempt ∈ session.attempts ∨ IsKeyOf websiteId attempt.key := by
  induction files generalizing session with
  | nil => exact Or.inl member
  | cons entry others inductionHypothesis =>
      obtain ⟨path, file⟩ := entry
      have ofFirst : ∀ made ∈ (putFile utf8 account (fileKey websiteId path) file attempts
          session).1.attempts, made ∈ session.attempts ∨ IsKeyOf websiteId made.key :=
        fun made isMade => (mem_attempts_putFile isMade).imp_right fun isKey => ⟨path, isKey⟩
      cases first : putFile utf8 account (fileKey websiteId path) file attempts session with
      | mk next outcome =>
          rw [first] at ofFirst
          cases outcome with
          | error error =>
              rw [putFiles_cons_of_failed first] at member
              exact ofFirst attempt member
          | ok =>
              rw [putFiles_cons_of_stored first] at member
              exact (inductionHypothesis member).elim (ofFirst attempt) Or.inr

theorem isKeyOf_of_mem_attempts {account : Account} {bucket : Bucket} {work : Work}
    {attempt : Attempt} (member : attempt ∈ (work.outcome account bucket).attempts) :
    IsKeyOf work.websiteId attempt.key := by
  cases work with
  | store websiteId files retries faults =>
      simp only [Work.outcome, outcomeOf, upload, uploadWith] at member
      split at member
      · exact (mem_attempts_putFiles member).resolve_left List.not_mem_nil
      · exact absurd member List.not_mem_nil
  | fetch websiteId path faults =>
      have noAttempt : (download account websiteId path (.begin bucket faults)).1.attempts = [] := by
        rw [fst_download]
        split
        · rfl
        · rfl
      rw [Work.outcome, outcomeOf, noAttempt] at member
      exact absurd member List.not_mem_nil

/-- What a request fetches is what the bucket holds under the key asked for. -/
theorem lookup_of_download {account : Account} {websiteId path : String} {session : Session}
    {found : Download}
    (fetched : (download account websiteId path session).2 = .ok (some found)) :
    session.bucket.lookup (requestKey websiteId path) = some found.body := by
  unfold download at fetched
  split at fetched
  · dsimp only at fetched
    split at fetched
    · obtain ⟨body, isHeld, rfl⟩ := Option.map_eq_some_iff.mp (Except.ok.inj fetched)
      exact isHeld
    · cases fetched
    · split at fetched
      · cases fetched
      · cases fetched
    · cases fetched
  · cases fetched

theorem exists_of_mem_history {account : Account} {bucket : Bucket} {works : List Work}
    {entry : Work × Outcome} (member : entry ∈ history account bucket works) :
    ∃ held, entry.2 = entry.1.outcome account held := by
  induction works generalizing bucket with
  | nil => exact absurd member List.not_mem_nil
  | cons work others inductionHypothesis =>
      rcases List.mem_cons.mp member with rfl | later
      · exact ⟨bucket, rfl⟩
      · exact inductionHypothesis later

/-- How a website fares beside another one in a run. -/
structure Isolated (account : Account) (bucket : Bucket) (websiteId other : String)
    (works : List Work) : Prop where
  /-- What comes of the work for the website is the same without the work for the other one. -/
  sameHistory : historyOf websiteId (history account bucket works) =
    historyOf websiteId (history account bucket (withoutWorkFor other works))
  /-- What a request for the website fetches is there without the work for the other one. -/
  fetched : ∀ before path faults after found,
    works = before ++ .fetch websiteId path faults :: after →
      (download account websiteId path (.begin (runAll account bucket before) faults)).2 =
          .ok (some found) →
        (runAll account bucket (withoutWorkFor other before)).lookup (requestKey websiteId path) =
          some found.body
  /-- Nothing is stored for the other website under a key that the website can be asked for. -/
  keysApart : ∀ entry ∈ history account bucket works, entry.1.isFor other = true →
    ∀ attempt ∈ entry.2.attempts, ∀ path, attempt.key ≠ requestKey websiteId path

/-- Websites with different ids without slashes are isolated: whatever is stored and asked for,
with whatever faults, neither of them notices the other. -/
theorem websites_isolated {websiteId other : String} (differs : other ≠ websiteId)
    (plain : '/' ∉ websiteId.toList) (otherPlain : '/' ∉ other.toList) (account : Account)
    (bucket : Bucket) (works : List Work) :
    Isolated account bucket websiteId other works := by
  have apart : AreApart websiteId other := ⟨differs, plain, otherPlain⟩
  constructor
  case sameHistory => exact apart.historyOf_eq account works fun _ => rfl
  case fetched =>
    intro before path faults after found _ isFetched
    have held := lookup_of_download isFetched
    have same := apart.sameFiles_runAll account before (fun _ => rfl : SameFiles websiteId bucket
      bucket) (requestedFile path)
    exact same.symm.trans held
  case keysApart =>
    intro entry member isFor attempt isMade path same
    obtain ⟨held, isOutcome⟩ := exists_of_mem_history member
    rw [isOutcome] at isMade
    obtain ⟨stored, isKey⟩ := isKeyOf_of_mem_attempts isMade
    have owner : entry.1.websiteId = other := beq_iff_eq.mp isFor
    rw [isKey, owner] at same
    exact fileKey_ne_of_ne differs plain otherPlain _ stored same

/-- Work for two websites of which the id of one is the beginning of the other's: each publishes
its first page, and one of them is asked for a page of the other. -/
def neighbourlyWork : List Work :=
  [ .store "ab" [("index.html", ⟨"index.html", "theirs", "text/html"⟩)] 1 [some .networkDown],
    .store "a" [("index.html", ⟨"index.html", "ours", "text/html"⟩)] 1 [],
    .fetch "a" "../ab/index.html" [],
    .fetch "a" "../a/.." [some (.refused "SlowDown")],
    .fetch "a" "./" [] ]

/-- A request that tries to leave its website finds nothing there. -/
theorem websites_isolated_neighbours :
    ("ab" ≠ "a" ∧ '/' ∉ "a".toList ∧ '/' ∉ "ab".toList) ∧
      ((historyOf "a" (history someAccount [] neighbourlyWork)).map fun entry => entry.2.answer) =
        [ .stored (.ok ["a/index.html"]),
          .fetched (.ok none),
          .fetched (.error (.failed .get (.refused "SlowDown"))),
          .fetched (.ok (some ⟨Text.utf8Bytes "ours", contentTypeOf "a/index.html"⟩)) ] ∧
      Isolated someAccount [] "a" "ab" neighbourlyWork := by
  have differs : "ab" ≠ "a" := by decide
  have plain : '/' ∉ "a".toList := by decide
  have otherPlain : '/' ∉ "ab".toList := by decide
  exact ⟨⟨differs, plain, otherPlain⟩, by rfl,
    websites_isolated differs plain otherPlain someAccount [] neighbourlyWork⟩

end StaticSite.Storage
