import StaticSite.Proofs.Storage.Isolation
import StaticSite.Proofs.Storage.ReadAfterWrite
import StaticSite.Service.Handler

/-!
Contract: clients that keep published files and ask whether they have changed.

Owns:
- runs of calls, in which any requests are handled one after the other on one bucket;
- the objects that a call puts, also where a publication fails before its end;
- the law that the bucket holds under each key what was put there last;
- the law that a tag is worth as much as the bytes that it came with.

Does not own: which request is for which object (see `StaticSite.Proofs.Storage.Reachability`).
-/

namespace StaticSite.Service

open StaticSite.Site StaticSite.Storage

/-! ## Runs of calls -/

/-- A request, the time when it is handled, and the faults that its own requests to storage
meet. -/
structure Call where
  request : Request
  time : ZonedTime
  faults : List (Option Fault)

section

variable (settings : Settings)

/-- What a call does with a bucket, and what becomes of it. -/
def handleCall (bucket : Bucket) (call : Call) : Session × Outcome :=
  handle settings call.time call.request (.begin bucket call.faults)

/-- The bucket after some calls in a row. -/
def bucketAfterCalls (bucket : Bucket) (calls : List Call) : Bucket :=
  calls.foldl (fun found call => (handleCall settings found call).1.bucket) bucket

/-- The answer to a call after others, the first of which has found an empty bucket. -/
def answerAfter (calls : List Call) (call : Call) : Outcome :=
  (handleCall settings (bucketAfterCalls settings [] calls) call).2

/-! ## What calls put -/

/-- The site that a call is to publish. -/
def siteToPublish (call : Call) : Option CompiledSite :=
  if routeOf call.request.path = some .publish ∧ call.request.method = "POST" then
    match submittedWebsite call.request with
    | .ok website => (Site.compile website settings.options call.time).toOption
    | .error _ => none
  else
    none

/-- The objects that a call puts, in order. A publication that fails has put those ahead of the
failure. -/
def putsOf (call : Call) : List (String × List UInt8) :=
  (siteToPublish settings call).elim [] fun site =>
    objectsOf site.websiteId
      (uploadedFiles settings.storage site.websiteId (filesOf site) defaultRetries
        (.begin [] call.faults))

/-- The bytes that some calls have put under a key last. -/
def lastPut? (calls : List Call) (key : String) : Option (List UInt8) :=
  (calls.flatMap (putsOf settings)).reverse.lookup key

end

/-- Which files are stored depends on the faults alone, and not on what the bucket holds. -/
theorem keptFiles_congr {watched : String → Prop} {session other : Session} (account : Account)
    (websiteId : String) (attempts : Nat) (files : List (String × File))
    (alike : Alike watched session other) :
    keptFiles account websiteId attempts files session =
      keptFiles account websiteId attempts files other := by
  induction files generalizing session other with
  | nil => rfl
  | cons entry others inductionHypothesis =>
      obtain ⟨path, file⟩ := entry
      obtain ⟨next, otherNext, outcome, isFirst, isOther, alikeNext⟩ :=
        (alikeTo_putFile account (fileKey websiteId path) file attempts alike).exists_eq
      simp only [keptFiles, isFirst, isOther]
      cases outcome with
      | error error => rfl
      | ok => exact congrArg ((path, file) :: ·) (inductionHypothesis alikeNext)

theorem uploadedFiles_begin (account : Account) (websiteId : String)
    (files : List (String × File)) (retries : Int) (bucket : Bucket)
    (faults : List (Option Fault)) :
    uploadedFiles account websiteId files retries (.begin bucket faults) =
      uploadedFiles account websiteId files retries (.begin [] faults) := by
  have alike : Alike (fun _ => False) (.begin bucket faults) (.begin [] faults) :=
    alike_begin (fun _ unwatched => unwatched.elim) faults
  unfold uploadedFiles
  rw [keptFiles_congr account websiteId _ files alike]

/-! ## One call -/

section

variable {settings : Settings}

theorem putsOf_of_not_publish {call : Call}
    (other : ¬ (routeOf call.request.path = some .publish ∧ call.request.method = "POST")) :
    putsOf settings call = [] := by
  rw [putsOf, siteToPublish, if_neg other, Option.elim_none]

/-- The answer to a publication does nothing more to storage. -/
theorem fst_publish (site : CompiledSite) (session : Session) :
    (publish settings site session).1 =
      (upload settings.storage site.websiteId (filesOf site) defaultRetries session).1 := by
  unfold publish
  rcases upload settings.storage site.websiteId (filesOf site) defaultRetries session with
    ⟨final, error | keys⟩
  · rfl
  · rfl

theorem fst_serve (request : Request) (websiteId path : String) (session : Session) :
    (serve settings request websiteId path session).1 =
      (download settings.storage websiteId path session).1 := by
  unfold serve
  rcases download settings.storage websiteId path session with ⟨final, error | missing | found⟩
  · rfl
  · rfl
  · rfl

/-- A publication leaves in the bucket what it has stored, whatever its answer. -/
theorem bucket_publish (site : CompiledSite) (bucket : Bucket) (faults : List (Option Fault)) :
    (publish settings site (.begin bucket faults)).1.bucket =
      Association.bindAll
        (objectsOf site.websiteId
          (uploadedFiles settings.storage site.websiteId (filesOf site) defaultRetries
            (.begin [] faults)))
        bucket := by
  rw [fst_publish, bucket_upload, uploadedFiles_begin]
  rfl

theorem bucket_serve (request : Request) (websiteId path : String) (session : Session) :
    (serve settings request websiteId path session).1.bucket = session.bucket := by
  rw [fst_serve, bucket_download]

/-- A compiled site that is only shown leaves the run of requests to storage as it was. -/
theorem fst_withCompiledSite (time : ZonedTime) (request : Request) (session : Session)
    (respond : CompiledSite → Outcome) :
    (withCompiledSite settings time request session fun site => (session, respond site)).1 =
      session := by
  unfold withCompiledSite
  split
  · rfl
  · split
    · rfl
    · rfl

/-- A call binds the objects that it puts, and nothing else. -/
theorem bucket_handleCall (bucket : Bucket) (call : Call) :
    (handleCall settings bucket call).1.bucket =
      Association.bindAll (putsOf settings call) bucket := by
  have unchanged {changed : Bucket} (isPut : putsOf settings call = [])
      (same : changed = bucket) : changed = Association.bindAll (putsOf settings call) bucket := by
    rw [isPut, same]
    rfl
  unfold handleCall handle
  cases onRoute : routeOf call.request.path with
  | none => exact unchanged (putsOf_of_not_publish (by simp [onRoute])) rfl
  | some route =>
      dsimp only
      split
      · rename_i isMethod
        cases route with
        | compile =>
            refine unchanged (putsOf_of_not_publish (by simp [onRoute])) ?_
            rw [handleRoute, fst_withCompiledSite, Session.begin]
        | preview =>
            refine unchanged (putsOf_of_not_publish (by simp [onRoute])) ?_
            rw [handleRoute, fst_withCompiledSite, Session.begin]
        | publish =>
            have isPost : call.request.method = "POST" := by simpa [Route.methods] using isMethod
            unfold handleRoute withCompiledSite putsOf siteToPublish
            rw [if_pos ⟨onRoute, isPost⟩]
            cases submittedWebsite call.request with
            | error unusable => rfl
            | ok website =>
                dsimp only
                cases Site.compile website settings.options call.time with
                | error error => rfl
                | ok site => exact bucket_publish site bucket call.faults
        | published websiteId path =>
            refine unchanged (putsOf_of_not_publish (by simp [onRoute])) ?_
            exact bucket_serve call.request websiteId path _
        | health => exact unchanged (putsOf_of_not_publish (by simp [onRoute])) rfl
        | description => exact unchanged (putsOf_of_not_publish (by simp [onRoute])) rfl
      · rename_i notMethod
        refine unchanged (putsOf_of_not_publish ?_) rfl
        rintro ⟨onPublish, isPost⟩
        apply notMethod
        rw [onRoute] at onPublish
        rw [Option.some.inj onPublish, isPost]
        decide

/-! ## Many calls -/

theorem bucketAfterCalls_eq (bucket : Bucket) (calls : List Call) :
    bucketAfterCalls settings bucket calls =
      Association.bindAll (calls.flatMap (putsOf settings)) bucket := by
  induction calls generalizing bucket with
  | nil => rfl
  | cons call others inductionHypothesis =>
      have later : bucketAfterCalls settings bucket (call :: others) =
          bucketAfterCalls settings (handleCall settings bucket call).1.bucket others := rfl
      rw [later, inductionHypothesis, bucket_handleCall, List.flatMap_cons, Association.bindAll,
        Association.bindAll, Association.bindAll, List.foldl_append]

theorem lookup_bucketAfterCalls (calls : List Call) (key : String) :
    (bucketAfterCalls settings [] calls).lookup key = lastPut? settings calls key := by
  rw [bucketAfterCalls_eq, Association.lookup_bindAll, List.lookup_nil, Option.or_none, lastPut?]

theorem lastPut?_eq_none_iff {calls : List Call} {key : String} :
    lastPut? settings calls key = none ↔
      ∀ body, (key, body) ∉ calls.flatMap (putsOf settings) := by
  rw [lastPut?, List.lookup_eq_none_iff]
  constructor
  · intro apart body member
    exact bne_iff_ne.mp (apart _ (List.mem_reverse.mpr member)) rfl
  · rintro never ⟨other, body⟩ member
    refine bne_iff_ne.mpr fun same => never body ?_
    rw [same]
    exact List.mem_reverse.mp member

/-- Whatever is put under a key, something stays there. -/
theorem lastPut?_append (calls later : List Call) (key : String) :
    lastPut? settings (calls ++ later) key =
      (lastPut? settings later key).or (lastPut? settings calls key) := by
  rw [lastPut?, List.flatMap_append, List.reverse_append, List.lookup_append, lastPut?, lastPut?]

/-! ## Requests for published files -/

/-- A call that asks for the file which a path of a website means, and meets no fault. -/
structure Call.Fetches (call : Call) (websiteId path : String) : Prop where
  isGet : call.request.method = "GET"
  onRoute : routeOf call.request.path = some (.published websiteId path)
  noFault : call.faults.head?.join = none

/-- The tag of the content that the client already has. -/
def Call.heldTag? (call : Call) : Option String :=
  call.request.header? "if-none-match"

/-- The answer that the content which a client has is still the current one. -/
def notModified (body : List UInt8) : Response :=
  ⟨304, cacheHeaders body, .empty⟩

/-- The answer with the object under a key. -/
def fileResponse (key : String) (body : List UInt8) : Response :=
  ⟨200, cacheHeaders body ++ [("content-type", contentTypeOf key ++ "; charset=utf-8")],
    .file body⟩

theorem lookup_etag_fileResponse (key : String) (body : List UInt8) :
    (fileResponse key body).headers.lookup "etag" = some (entityTag body) :=
  rfl

theorem putsOf_of_fetches {call : Call} {websiteId path : String}
    (fetches : call.Fetches websiteId path) : putsOf settings call = [] := by
  apply putsOf_of_not_publish
  rintro ⟨onPublish, -⟩
  rw [fetches.onRoute] at onPublish
  cases onPublish

theorem handle_of_route {request : Request} {route : Route}
    (onRoute : routeOf request.path = some route)
    (allowed : route.methods.contains request.method = true) (time : ZonedTime)
    (session : Session) :
    handle settings time request session = handleRoute settings time request session route := by
  unfold handle
  rw [onRoute]
  exact if_pos allowed

/-- A request for a file is answered with what was put last under its key. -/
theorem answerAfter_of_fetches (complete : settings.storage.isComplete = true) (calls : List Call)
    {call : Call} {websiteId path : String} (fetches : call.Fetches websiteId path) :
    answerAfter settings calls call =
      match lastPut? settings calls (requestKey websiteId path) with
      | none => respondDocument 404 notFoundDocument
      | some body =>
          .ok (if call.heldTag? = some (entityTag body) then notModified body
            else fileResponse (requestKey websiteId path) body) := by
  obtain ⟨isGet, onRoute, noFault⟩ := fetches
  let session : Session := .begin (bucketAfterCalls settings [] calls) call.faults
  have downloaded : (download settings.storage websiteId path session).2 = _ :=
    download_of_no_fault complete websiteId path noFault
  have found : session.bucket.lookup (requestKey websiteId path) = _ :=
    lookup_bucketAfterCalls calls (requestKey websiteId path)
  have served : answerAfter settings calls call =
      (serve settings call.request websiteId path session).2 := by
    have allowed :
        (Route.published websiteId path).methods.contains call.request.method = true := by
      rw [isGet]
      rfl
    exact congrArg Prod.snd (handle_of_route onRoute allowed call.time session)
  rw [found] at downloaded
  rw [served, serve]
  cases isLast : lastPut? settings calls (requestKey websiteId path) with
  | none =>
      rw [isLast] at downloaded
      rw [← Prod.eta (download settings.storage websiteId path session), downloaded]
      rfl
  | some body =>
      rw [isLast] at downloaded
      rw [← Prod.eta (download settings.storage websiteId path session), downloaded]
      simp only [Option.map_some, respondFile, beq_iff_eq]
      rfl

/-- A request for a file that is sent is answered with what was put last under its key. -/
theorem exists_lastPut_of_sent (complete : settings.storage.isComplete = true)
    {calls : List Call} {call : Call} {websiteId path : String}
    (fetches : call.Fetches websiteId path) {response : Response}
    (answered : answerAfter settings calls call = .ok response) (isSent : response.status = 200) :
    ∃ body, lastPut? settings calls (requestKey websiteId path) = some body ∧
      response = fileResponse (requestKey websiteId path) body := by
  rw [answerAfter_of_fetches complete calls fetches] at answered
  cases isLast : lastPut? settings calls (requestKey websiteId path) with
  | none =>
      rw [isLast] at answered
      rw [← Except.ok.inj answered] at isSent
      cases isSent
  | some body =>
      rw [isLast] at answered
      have isResponse := Except.ok.inj answered
      refine ⟨body, rfl, ?_⟩
      split at isResponse
      · rw [← isResponse] at isSent
        cases isSent
      · exact isResponse.symm

/-- Whatever is called after a request for a file, the file is there, and it is still the same if
nothing else is put under its key. -/
theorem exists_lastPut_after {calls : List Call} {first : Call} {websiteId path key : String}
    {old : List UInt8} (fetches : first.Fetches websiteId path)
    (wasLast : lastPut? settings calls key = some old) (later : List Call) :
    ∃ new, lastPut? settings (calls ++ first :: later) key = some new ∧
      ((∀ body, (key, body) ∈ later.flatMap (putsOf settings) → body = old) → new = old) := by
  have noPut : lastPut? settings (first :: later) key = lastPut? settings later key := by
    rw [lastPut?, lastPut?, List.flatMap_cons, putsOf_of_fetches fetches, List.nil_append]
  rw [lastPut?_append, noPut, wasLast]
  cases isLater : lastPut? settings later key with
  | none => exact ⟨old, rfl, fun _ => rfl⟩
  | some body =>
      refine ⟨body, rfl, fun unchanged => unchanged body ?_⟩
      exact List.mem_reverse.mp (Association.mem_of_lookup_eq_some isLater)

/-- Different content has different tags unless its digests are equal. -/
theorem entityTag_eq_iff {body other : List UInt8} :
    entityTag body = entityTag other ↔
      Digest.Md5.hexDigest body = Digest.Md5.hexDigest other := by
  rw [entityTag, entityTag, String.append_left_inj, String.append_right_inj]

/-- Conditional requests are coherent across any calls, publications that fail on their way among
them. A file is current if it was put last; a client gets it unless it has its tag, and then hears
just that; and a file that was never put is not there. Any file that is sent comes with the tag of
its bytes, and a client that sends this tag back hears that the file is still current as long as
only these bytes are put, and gets the bytes that are there once others are, unless their digests
collide. -/
theorem conditional_requests_coherent (complete : settings.storage.isComplete = true)
    (calls : List Call) (websiteId path : String) :
    (∀ call : Call, call.Fetches websiteId path →
      ((∀ body, (requestKey websiteId path, body) ∉ calls.flatMap (putsOf settings)) →
        answerAfter settings calls call = respondDocument 404 notFoundDocument) ∧
      ∀ body, (bucketAfterCalls settings [] calls).lookup (requestKey websiteId path) = some body →
        lastPut? settings calls (requestKey websiteId path) = some body ∧
        answerAfter settings calls call =
          .ok (if call.heldTag? = some (entityTag body) then notModified body
            else fileResponse (requestKey websiteId path) body)) ∧
    ∀ (first : Call) (response : Response), first.Fetches websiteId path →
      answerAfter settings calls first = .ok response → response.status = 200 →
      ∃ old, response.body = .file old ∧
        response.headers.lookup "etag" = some (entityTag old) ∧
        ∀ (again : Call) (later : List Call), again.Fetches websiteId path →
          again.heldTag? = response.headers.lookup "etag" →
          ∃ new,
            (bucketAfterCalls settings [] (calls ++ first :: later)).lookup
              (requestKey websiteId path) = some new ∧
            ((∀ body, (requestKey websiteId path, body) ∈ later.flatMap (putsOf settings) →
              body = old) → new = old) ∧
            (new = old → answerAfter settings (calls ++ first :: later) again =
              .ok (notModified old)) ∧
            ((Digest.Md5.hexDigest new = Digest.Md5.hexDigest old → new = old) → new ≠ old →
              answerAfter settings (calls ++ first :: later) again =
                .ok (fileResponse (requestKey websiteId path) new)) := by
  constructor
  · intro call fetches
    rw [answerAfter_of_fetches complete calls fetches]
    constructor
    · intro never
      rw [lastPut?_eq_none_iff.mpr never]
    · intro body current
      rw [lookup_bucketAfterCalls] at current
      rw [current]
      exact ⟨rfl, rfl⟩
  · intro first response firstFetches answered isSent
    obtain ⟨old, wasLast, rfl⟩ := exists_lastPut_of_sent complete firstFetches answered isSent
    refine ⟨old, rfl, lookup_etag_fileResponse _ old, fun again later againFetches held => ?_⟩
    rw [lookup_etag_fileResponse] at held
    obtain ⟨new, isNew, unchanged⟩ := exists_lastPut_after firstFetches wasLast later
    have again := answerAfter_of_fetches complete (calls ++ first :: later) againFetches
    rw [isNew, held] at again
    dsimp only at again
    refine ⟨new, (lookup_bucketAfterCalls _ _).trans isNew, unchanged, ?_, ?_⟩
    · rintro rfl
      rw [again, if_pos rfl]
    · intro noCollision changed
      have differs : some (entityTag old) ≠ some (entityTag new) := fun same =>
        changed (noCollision (entityTag_eq_iff.mp (Option.some.inj same)).symm)
      rw [again, if_neg differs]

end

/-! ## A style sheet that changes -/

/-- A call that publishes a website with the given components on its only page. -/
def publishCall (components : String) (faults : List (Option Fault)) : Call :=
  { request :=
      { method := "POST"
        path := "/api/sites/publish"
        query := []
        headers := []
        body := some ("\x7b\"id\":\"w\",\"pages\":[\x7b\"id\":\"p\",\"content\":" ++
          "\x7b\"components\":[" ++ components ++ "]\x7d\x7d]\x7d") }
    time := someNoon
    faults := faults }

/-- A call that asks for the style sheet of its page. -/
def styleCall (heldTag : Option String) : Call :=
  { request :=
      { method := "GET"
        path := "/sites/w/css/page-p.css"
        query := []
        headers := (heldTag.map fun tag => ("If-None-Match", tag)).toList
        body := none }
    time := someNoon
    faults := [] }

theorem fetches_styleCall (heldTag : Option String) :
    (styleCall heldTag).Fetches "w" "css/page-p.css" :=
  ⟨rfl, (by decide : routeOf "/sites/w/css/page-p.css" = _), rfl⟩

/-- A publication that puts the style sheet of its page and fails at its script. -/
def partialPublishCall : Call :=
  publishCall "\x7b\"type\":\"spacer\"\x7d"
    [none, none, none, none, some .networkDown, some .networkDown]

/-- The style sheet of a page with a spacer. -/
def spacerStyle : List UInt8 :=
  Text.utf8Bytes "/* Component: spacer */\n#component-c0 \x7b\n\x7d\n"

/-- A style sheet is not there before it is published, is sent with its tag, is still current while
nothing else is published, and is sent again after a publication that fails once it has put
another. -/
theorem conditional_requests_coherent_style :
    answerAfter someSettings [] (styleCall none) = respondDocument 404 notFoundDocument ∧
      answerAfter someSettings [publishCall "" []] (styleCall none) =
        .ok (fileResponse "w/css/page-p.css" []) ∧
      (fileResponse "w/css/page-p.css" []).headers.lookup "etag" =
        some "\"d41d8cd98f00b204e9800998ecf8427e\"" ∧
      answerAfter someSettings [publishCall "" [], styleCall none]
        (styleCall (some (entityTag []))) = .ok (notModified []) ∧
      answerAfter someSettings [publishCall "" [], styleCall none, partialPublishCall]
        (styleCall (some (entityTag []))) = .ok (fileResponse "w/css/page-p.css" spacerStyle) := by
  have complete : someSettings.storage.isComplete = true := by decide
  have isKey : requestKey "w" "css/page-p.css" = "w/css/page-p.css" := by decide
  have firstPut : lastPut? someSettings [publishCall "" []] "w/css/page-p.css" = some [] := by
    decide +kernel
  have secondPut : lastPut? someSettings [partialPublishCall] "w/css/page-p.css" =
      some spacerStyle := by
    decide +kernel
  have differs : Digest.Md5.hexDigest spacerStyle ≠ Digest.Md5.hexDigest [] := by decide +kernel
  have held : (styleCall (some (entityTag []))).heldTag? = some (entityTag []) := by
    have sameName : ("If-None-Match".toLower == "if-none-match") = true := by decide +kernel
    simp only [styleCall, Call.heldTag?, Request.header?, Option.map_some, Option.toList_some,
      List.find?_cons, sameName]
  have beforeAll := (conditional_requests_coherent complete [] "w" "css/page-p.css").1
  have coherent := conditional_requests_coherent complete [publishCall "" []] "w" "css/page-p.css"
  rw [isKey] at beforeAll coherent
  obtain ⟨sent, revalidated⟩ := coherent
  have first : answerAfter someSettings [publishCall "" []] (styleCall none) =
      .ok (fileResponse "w/css/page-p.css" []) := by
    have current := (lookup_bucketAfterCalls [publishCall "" []] _).trans firstPut
    exact ((sent _ (fetches_styleCall none)).2 [] current).2
  obtain ⟨old, isOld, isTag, again⟩ := revalidated _ _ (fetches_styleCall none) first rfl
  obtain rfl := Body.file.inj isOld
  have emptyTag : entityTag [] = "\"d41d8cd98f00b204e9800998ecf8427e\"" := by decide +kernel
  refine ⟨(beforeAll _ (fetches_styleCall none)).1 (fun _ => List.not_mem_nil), first,
    isTag.trans (congrArg some emptyTag), ?_, ?_⟩
  · obtain ⟨new, -, unchanged, same, -⟩ :=
      again _ [] (fetches_styleCall (some (entityTag []))) (held.trans isTag.symm)
    exact same (unchanged fun _ member => absurd member List.not_mem_nil)
  · obtain ⟨new, isNew, -, -, changed⟩ :=
      again _ [partialPublishCall] (fetches_styleCall (some (entityTag [])))
        (held.trans isTag.symm)
    have isLast : lastPut? someSettings
        ([publishCall "" [], styleCall none] ++ [partialPublishCall]) "w/css/page-p.css" =
          some spacerStyle := by
      rw [lastPut?_append, secondPut, Option.some_or]
    obtain rfl : new = spacerStyle := by
      rw [lookup_bucketAfterCalls] at isNew
      exact Option.some.inj (isNew.symm.trans isLast)
    exact changed (fun collide => absurd collide differs)
      (fun same => differs (congrArg Digest.Md5.hexDigest same))

end StaticSite.Service
