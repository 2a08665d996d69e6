import StaticSite.Proofs.Json.Data
import StaticSite.Proofs.Page.AssetName
import StaticSite.Proofs.Storage.Reachability
import StaticSite.Proofs.Storage.Work
import StaticSite.Service.Publication

/-!
Contract: published files are read back as they were published.

Owns:
- the law that a file of a site is requested by its own path, and that its key tells its content
  type;
- what a publication reports, and what requests for its files fetch after it.

Does not own: requests for the paths of pages (see `StaticSite.Proofs.Storage.Reachability`), and
what other work leaves in the bucket (see `StaticSite.Proofs.Storage.Work`).
-/

namespace StaticSite.Storage

open StaticSite.Page StaticSite.Site

/-! ## Paths that mean themselves -/

/-- A path of segments that name something means itself if its last segment has a dot. -/
theorem requestedFile_intercalate {segments : List String}
    (plain : ∀ segment ∈ segments, '/' ∉ segment.toList)
    (named : ∀ segment ∈ segments, isNamedSegment segment = true)
    (fileName : endsInFileName segments = true) :
    requestedFile ("/".intercalate segments) = "/".intercalate segments := by
  have sameSegments : namedSegments ("/".intercalate segments) = segments := by
    rw [namedSegments_intercalate plain]
    exact List.filter_eq_self.mpr named
  rw [requestedFile_of_endsInFileName, sameSegments]
  rw [sameSegments]
  exact fileName

theorem requestedFile_filePath (path : String) : requestedFile (filePath path) = filePath path := by
  apply requestedFile_intercalate
  · intro segment member
    exact filePath_plain member
  · intro segment member
    rcases List.mem_append.mp member with named | isName
    · exact isNamedSegment_of_mem_namedSegments named
    · rw [List.mem_singleton.mp isName]
      decide
  · unfold endsInFileName
    rw [List.getLast?_append, List.getLast?_singleton, Option.some_or]
    decide

/-! ## Names of pages in the names of files -/

theorem slash_not_mem_of_isSafeId {id : String} (safe : IsSafeId id) : '/' ∉ id.toList := by
  intro member
  have allowed := safe '/' member
  revert allowed
  decide

theorem slash_not_mem_assetName (id : String) : '/' ∉ (assetName id).toList :=
  slash_not_mem_of_isSafeId (isSafeId_assetName id)

/-- The file of a page in a directory of styles or scripts. -/
theorem requestedFile_pageFile {directory word : String} (plainDirectory : '/' ∉ directory.toList)
    (namedDirectory : isNamedSegment directory = true) (plainWord : '/' ∉ word.toList)
    (id : String) :
    requestedFile (directory ++ "/page-" ++ assetName id ++ "." ++ word) =
      directory ++ "/page-" ++ assetName id ++ "." ++ word := by
  have isPath : directory ++ "/page-" ++ assetName id ++ "." ++ word =
      "/".intercalate [directory, "page-" ++ assetName id ++ "." ++ word] := by
    apply String.toList_inj.mp
    simp
  rw [isPath]
  apply requestedFile_intercalate
  · intro segment member
    simp only [List.mem_cons, List.not_mem_nil, or_false] at member
    rcases member with rfl | rfl
    · exact plainDirectory
    · intro inFile
      simp only [String.toList_append, List.mem_append] at inFile
      rcases inFile with ((inStart | inName) | isDot) | inWord
      · exact absurd inStart (by decide)
      · exact slash_not_mem_assetName id inName
      · exact absurd isDot (by decide)
      · exact plainWord inWord
  · intro segment member
    simp only [List.mem_cons, List.not_mem_nil, or_false] at member
    rcases member with rfl | rfl
    · exact namedDirectory
    · have begins : ∀ other : String, other.toList.head? ≠ some 'p' →
          "page-" ++ assetName id ++ "." ++ word ≠ other := by
        intro other apart same
        apply apart
        rw [← same]
        simp
      simp only [isNamedSegment, Bool.and_eq_true, bne_iff_ne]
      exact ⟨⟨begins "" (by decide), begins "." (by decide)⟩, begins ".." (by decide)⟩
  · simp [endsInFileName]

/-! ## Files that stand for themselves -/

/-- Whether a file is requested by its own path, under keys that tell its content type. -/
def StandsForItself (file : File) : Prop :=
  requestedFile file.path = file.path ∧
    ∀ websiteId, contentTypeOf (fileKey websiteId file.path) = file.contentType

theorem contentTypeOf_fileKey {path stem word : String} (isPath : path = stem ++ "." ++ word)
    (plain : '.' ∉ word.toList) (websiteId : String) :
    contentTypeOf (fileKey websiteId path) =
      (contentTypes.lookup (String.ofList (word.toList.map Char.toLower))).getD
        "application/octet-stream" := by
  have isKey : fileKey websiteId path = websiteId ++ "/" ++ stem ++ "." ++ word := by
    simp only [fileKey, isPath, String.append_assoc]
  rw [isKey, contentTypeOf_append _ plain, toLower_eq]

theorem standsForItself_documentFile (page : CompiledPage) :
    StandsForItself (documentFile page) :=
  ⟨requestedFile_filePath page.path,
    fun websiteId => contentTypeOf_fileKey_filePath websiteId page.path⟩

/-- A file whose path ends in a dot and an ending without a dot, and that is asked for under its
path, stands for itself if it has the type of its ending. -/
theorem standsForItself_of_ending {path contentType : String} (stem word : String)
    (isPath : path = stem ++ "." ++ word) (plain : '.' ∉ word.toList)
    (isRequested : requestedFile path = path)
    (isType : (contentTypes.lookup (String.ofList (word.toList.map Char.toLower))).getD
      "application/octet-stream" = contentType) (content : String) :
    StandsForItself ⟨path, content, contentType⟩ := by
  constructor
  · exact isRequested
  · intro websiteId
    rw [contentTypeOf_fileKey isPath plain]
    exact isType

theorem standsForItself_styleFile (page : CompiledPage) : StandsForItself (styleFile page) := by
  have isPath : (styleFile page).path = "css" ++ "/page-" ++ page.asset ++ "." ++ "css" := by
    apply String.toList_inj.mp
    simp [styleFile]
  refine standsForItself_of_ending _ "css" isPath (by decide) ?_ (by decide) _
  rw [isPath]
  exact requestedFile_pageFile (by decide) (by decide) (by decide) page.pageId

theorem standsForItself_scriptFile (page : CompiledPage) : StandsForItself (scriptFile page) := by
  have isPath : (scriptFile page).path = "js" ++ "/page-" ++ page.asset ++ "." ++ "js" := by
    apply String.toList_inj.mp
    simp [scriptFile]
  refine standsForItself_of_ending _ "js" isPath (by decide) ?_ (by decide) _
  rw [isPath]
  exact requestedFile_pageFile (by decide) (by decide) (by decide) page.pageId

theorem standsForItself_sharedFiles (site : CompiledSite) :
    ∀ file ∈ sharedFiles site, StandsForItself file := by
  intro file member
  simp only [sharedFiles, List.mem_cons, List.not_mem_nil, or_false] at member
  rcases member with rfl | rfl
  · exact standsForItself_of_ending "css/global" "css" (by decide) (by decide)
      (by decide) (by decide) _
  · exact standsForItself_of_ending "js/global" "js" (by decide) (by decide)
      (by decide) (by decide) _

theorem standsForItself_assetsOf (website : Website) (manifest : Json)
    (sitemap : List SitemapEntry) (robots : String) :
    ∀ file ∈ assetsOf website manifest sitemap robots, StandsForItself file := by
  intro file member
  simp only [assetsOf, List.mem_cons, List.not_mem_nil, or_false] at member
  rcases member with rfl | rfl | rfl | rfl
  · exact standsForItself_of_ending "manifest" "json" (by decide) (by decide)
      (by decide) (by decide) _
  · exact standsForItself_of_ending "sitemap" "xml" (by decide) (by decide)
      (by decide) (by decide) _
  · exact standsForItself_of_ending "robots" "txt" (by decide) (by decide)
      (by decide) (by decide) _
  · exact standsForItself_of_ending "sw" "js" (by decide) (by decide)
      (by decide) (by decide) _

/-- Every file of a compiled site stands for itself, whatever the slugs and the ids of its
pages. -/
theorem standsForItself_of_mem_filesOf {website : Website} {options : Options} {time : UtcTime}
    {path : String} {file : File}
    (member : (path, file) ∈ filesOf (compileAt website options time)) :
    file.path = path ∧ StandsForItself file := by
  obtain ⟨written, isWritten, isEntry⟩ :=
    List.mem_map.mp (Association.mem_of_mem_ofBindings member)
  obtain ⟨rfl, rfl⟩ := Prod.mk.inj isEntry
  refine ⟨rfl, ?_⟩
  simp only [writtenFiles, List.mem_append] at isWritten
  rcases isWritten with ((isDocument | isShared) | isOfPage) | isAsset
  · obtain ⟨page, _, rfl⟩ := List.mem_map.mp isDocument
    exact standsForItself_documentFile page
  · exact standsForItself_sharedFiles _ written isShared
  · obtain ⟨page, _, isFile⟩ := List.mem_flatMap.mp isOfPage
    simp only [List.mem_cons, List.not_mem_nil, or_false] at isFile
    rcases isFile with rfl | rfl
    · exact standsForItself_styleFile page
    · exact standsForItself_scriptFile page
  · exact standsForItself_assetsOf _ _ _ _ written isAsset

/-! ## Publications -/

theorem allFinite_publicationReport (settings : Settings) (site : CompiledSite) :
    (Service.publicationReport settings site).allFinite = true := by
  rw [Service.publicationReport, Json.allFinite_object_iff]
  intro member isMember
  simp only [List.mem_cons, List.not_mem_nil, or_false] at isMember
  rcases isMember with rfl | rfl | rfl | rfl
  · rfl
  · rfl
  · exact Json.allFinite_texts _
  · rfl

/-- A publication whose upload succeeds answers with the report. -/
theorem publish_of_uploaded {settings : Settings} {site : CompiledSite} {session final : Session}
    {keys : List String}
    (uploaded : upload settings.storage site.websiteId (filesOf site) defaultRetries session =
      (final, .ok keys)) :
    Service.publish settings site session =
      (final, .ok ⟨200, [("content-type", "application/json")],
        .json (Service.publicationReport settings site)⟩) := by
  unfold Service.publish
  rw [uploaded]
  show (final, Service.respondJsonWith [] 200 _) = _
  rw [Service.respondJsonWith, if_pos (allFinite_publicationReport settings site)]
  rfl

/-- A publication with status 200 has stored all files of the site, and reports them. -/
theorem publish_ok {settings : Settings} {site : CompiledSite} {session final : Session}
    {response : Service.Response}
    (published : Service.publish settings site session = (final, .ok response))
    (succeeded : response.status = 200) :
    ∃ keys, upload settings.storage site.websiteId (filesOf site) defaultRetries session =
        (final, .ok keys) ∧
      response.body = .json (Service.publicationReport settings site) := by
  cases outcome : upload settings.storage site.websiteId (filesOf site) defaultRetries session with
  | mk last result =>
      cases result with
      | ok keys =>
          rw [publish_of_uploaded outcome, Prod.mk.injEq] at published
          obtain ⟨rfl, isResponse⟩ := published
          refine ⟨keys, rfl, ?_⟩
          rw [← Except.ok.inj isResponse]
      | error error =>
          simp only [Service.publish, outcome, Prod.mk.injEq] at published
          obtain ⟨_, isResponse⟩ := published
          cases error with
          | missingCredentials =>
              -- The only failure that is answered, and not with status 200.
              have isUnavailable : response.status = 503 := by
                rw [← Except.ok.inj isResponse]
              omega
          | unencodable exception => exact exception.elim
          | failed operation fault => exact nomatch isResponse
          | neverAttempted => exact nomatch isResponse

/-- What is read under the path of a stored file after later work that stores nothing for the
website. -/
theorem download_of_runAll {account : Account} {website : Website} {options : Options}
    {time : UtcTime} {session final asked : Session} {keys : List String} {later : List Work}
    (uploaded : upload account website.id (filesOf (compileAt website options time))
      defaultRetries session = (final, .ok keys))
    (apart : ∀ work ∈ later, ¬ work.WritesUnder website.id)
    (isBucket : asked.bucket = runAll account final.bucket later)
    (noFault : asked.nextFault = none) {path : String} {file : File}
    (found : (filesOf (compileAt website options time)).lookup path = some file) :
    (download account website.id path asked).2 =
      .ok (some ⟨Text.utf8Bytes file.content, file.contentType⟩) := by
  have member : (path, file) ∈ filesOf (compileAt website options time) :=
    (Association.lookup_eq_some_iff_of_nodup (nodup_names_filesOf _) path file).mp found
  obtain ⟨isPath, isRequested, isType⟩ := standsForItself_of_mem_filesOf member
  rw [isPath] at isRequested isType
  have held : asked.bucket.lookup (fileKey website.id path) =
      some (Text.utf8Bytes file.content) := by
    rw [isBucket, lookup_runAll apart, lookup_bucket_of_upload uploaded, found]
    rfl
  rw [download_of_no_fault (upload_ok uploaded).1 _ _ noFault, requestKey, isRequested, held,
    isType]
  rfl

/-- Settings with an account that has nothing missing. -/
def someSettings : Settings := { Settings.ofEnvironment [] with storage := someAccount }

/-- Later work that stores a file for another website and reads one of this website. -/
def someLaterWork : List Work :=
  [.store "v" [("index.html", ⟨"index.html", "", "text/html"⟩)] 0 [], .fetch "w" "index.html" []]

end StaticSite.Storage
