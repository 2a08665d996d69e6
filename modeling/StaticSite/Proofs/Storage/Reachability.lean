import StaticSite.Proofs.Site.Documents
import StaticSite.Proofs.Storage.Key
import StaticSite.Proofs.Storage.Upload
import StaticSite.Storage.Download

/-!
Contract: which published pages their own paths lead to.

Owns:
- what a bucket holds under the keys of a website once its files are stored;
- the exact condition under which the path of a page fetches its document.

Does not own: answers to clients (see `StaticSite.Service.Publication`).
-/

namespace StaticSite.Storage

open StaticSite.Page StaticSite.Site

/-! ## The bucket after an upload -/

theorem lookup_objectsOf (websiteId : String) (files : List (String × File)) (path : String) :
    (objectsOf websiteId files).lookup (fileKey websiteId path) =
      (files.lookup path).map fun file => Text.utf8Bytes file.content := by
  induction files with
  | nil => rfl
  | cons entry others inductionHypothesis =>
      obtain ⟨name, file⟩ := entry
      have sameTest : (fileKey websiteId path == fileKey websiteId name) = (path == name) := by
        rw [Bool.eq_iff_iff, beq_iff_eq, beq_iff_eq, fileKey_eq_iff]
      have split : objectsOf websiteId ((name, file) :: others) =
          (fileKey websiteId name, Text.utf8Bytes file.content) :: objectsOf websiteId others :=
        rfl
      rw [split, List.lookup_cons, List.lookup_cons, sameTest, inductionHypothesis]
      cases path == name with
      | true => rfl
      | false => rfl

theorem nodup_names_objectsOf (websiteId : String) {files : List (String × File)}
    (distinct : (files.map Prod.fst).Nodup) :
    ((objectsOf websiteId files).map Prod.fst).Nodup := by
  have keys : (objectsOf websiteId files).map Prod.fst =
      (files.map Prod.fst).map (fileKey websiteId) := by
    simp only [objectsOf, List.map_map, Function.comp_def]
  rw [keys]
  exact distinct.map fun _ _ => fileKey_inj

/-- After an upload the bucket holds the files of the site under their keys, and what it
held before under every other key. -/
theorem lookup_bucket_of_upload {account : Account} {websiteId : String} {site : CompiledSite}
    {retries : Int} {session final : Session} {keys : List String}
    (uploaded : upload account websiteId (filesOf site) retries session = (final, .ok keys))
    (path : String) :
    final.bucket.lookup (fileKey websiteId path) =
      (((filesOf site).lookup path).map fun file => Text.utf8Bytes file.content).or
        (session.bucket.lookup (fileKey websiteId path)) := by
  obtain ⟨_, isBucket, _⟩ := upload_ok uploaded
  have distinct := nodup_names_objectsOf websiteId (nodup_names_filesOf site)
  rw [isBucket, Association.lookup_bindAll, Association.lookup_reverse_of_nodup distinct]
  exact congrArg (fun found => found.or (session.bucket.lookup (fileKey websiteId path)))
    (lookup_objectsOf websiteId (filesOf site) path)

/-- A request that meets no fault fetches what the bucket holds under its key. -/
theorem download_of_no_fault {account : Account} (complete : account.isComplete = true)
    (websiteId path : String) {session : Session} (noFault : session.nextFault = none) :
    (download account websiteId path session).2 =
      .ok ((session.bucket.lookup (requestKey websiteId path)).map fun body =>
        ⟨body, contentTypeOf (requestKey websiteId path)⟩) := by
  simp only [download, complete, if_true, noFault]

/-! ## Sites with one page -/

theorem pages_of_onePage {website : Website} {page : Page} (onePage : website.pages = [page])
    (options : Options) (time : UtcTime) :
    (compileAt website options time).pages = [Page.compile page website options] := by
  have kept : pagesOf website = [page] := by
    simp [pagesOf, onePage, keptPages, Reserved.admits, Reserved.none]
  simp only [compileAt, kept, List.map_cons, List.map_nil]

/-- The only page of a site has its document under its path. -/
theorem lookup_document_of_onePage {website : Website} {page : Page}
    (onePage : website.pages = [page]) (options : Options) (time : UtcTime) :
    (filesOf (compileAt website options time)).lookup (filePath page.path) =
      some (documentFile (Page.compile page website options)) := by
  rw [lookup_filesOf_filePath, pages_of_onePage onePage]
  simp [path_compile]

/-- A file that stands where no document does is none of a page. -/
theorem mem_otherFiles_of_onePage {website : Website} {page : Page}
    (onePage : website.pages = [page]) {options : Options} {time : UtcTime} {path : String}
    {file : File} (found : (filesOf (compileAt website options time)).lookup path = some file)
    (noDocument : path ≠ filePath page.path) :
    file ∈ otherFiles (compileAt website options time) ∧ file.path = path := by
  rw [filesOf, filesAfter, Association.lookup_ofBindings, ← List.map_reverse,
    lookup_map_pair] at found
  have samePath : file.path = path := by
    have test := List.find?_some found
    exact beq_iff_eq.mp test
  have member := List.mem_reverse.mp (List.mem_of_find?_eq_some found)
  rw [writtenFiles_eq, pages_of_onePage onePage, List.mem_append] at member
  rcases member with ofPage | ofOther
  · rw [List.map_cons, List.map_nil, List.mem_singleton] at ofPage
    rw [ofPage, path_documentFile_compile] at samePath
    exact absurd samePath.symm noDocument
  · exact ⟨ofOther, samePath⟩

/-- The files of a site that are no documents of pages do not pass for such. -/
theorem contentTypeOf_otherFiles {website : Website} {options : Options} {time : UtcTime}
    {file : File} (member : file ∈ otherFiles (compileAt website options time))
    (websiteId : String) : contentTypeOf (fileKey websiteId file.path) ≠ "text/html" := by
  have otherTypes : ∀ word ∈ otherEndings, '.' ∉ word.toList ∧
      (contentTypes.lookup (String.ofList (word.toList.map Char.toLower))).getD
        "application/octet-stream" ≠ "text/html" := by decide
  obtain ⟨stem, word, isEnding, isPath⟩ := exists_path_eq_of_mem_otherFiles member
  have isKey : fileKey websiteId file.path = websiteId ++ "/" ++ stem ++ "." ++ word := by
    simp only [fileKey, isPath, String.append_assoc]
  rw [isKey, contentTypeOf_append _ (otherTypes word isEnding).1, toLower_eq]
  exact (otherTypes word isEnding).2

/-! ## The path of a published page -/

/-- What the path of the only page of a published site fetches. -/
theorem download_of_published {account : Account} {website : Website} {page : Page}
    {options : Options} {time : UtcTime} {retries : Int} {session final asked : Session}
    {keys : List String} (onePage : website.pages = [page])
    (uploaded : upload account website.id (filesOf (compileAt website options time)) retries
      session = (final, .ok keys))
    (sameBucket : asked.bucket = final.bucket) (noFault : asked.nextFault = none) :
    (download account website.id (belowRoot page.path) asked).2 =
        .ok (some ⟨Text.utf8Bytes (Page.compile page website options).html, "text/html"⟩) ↔
      endsInFileName (namedSegments page.path) = false ∨
        session.bucket.lookup (requestKey website.id page.path) =
            some (Text.utf8Bytes (Page.compile page website options).html) ∧
          contentTypeOf (requestKey website.id page.path) = "text/html" := by
  have sameKey : requestKey website.id (belowRoot page.path) =
      requestKey website.id page.path := by
    rw [requestKey, requestKey, Page.path, requestedFile_belowRoot_pathOfSlug]
  have held := lookup_bucket_of_upload uploaded (requestedFile page.path)
  rw [download_of_no_fault (upload_ok uploaded).1 _ _ noFault, sameKey, sameBucket, requestKey,
    held]
  cases fileName : endsInFileName (namedSegments page.path) with
  | false =>
      rw [requestedFile_of_not_endsInFileName fileName, lookup_document_of_onePage onePage,
        contentTypeOf_fileKey_filePath]
      simp [documentFile]
  | true =>
      cases found : (filesOf (compileAt website options time)).lookup (requestedFile page.path) with
      | none => simp
      | some file =>
          have ofOther := mem_otherFiles_of_onePage onePage found
            (requestedFile_ne_filePath_of_endsInFileName fileName)
          have otherType := contentTypeOf_otherFiles ofOther.1 website.id
          rw [ofOther.2] at otherType
          simp [otherType]

/-- The path of a page means the key of its document exactly if it does not end in a file
name. Once a site with one page is published, a request for that path fetches the document
in exactly this case, but for an equal document that was there before. -/
theorem published_page_reachable_iff {account : Account} {website : Website} {page : Page}
    {options : Options} {time : ZonedTime} {site : CompiledSite} {retries : Int}
    {session final asked : Session} {keys : List String} (onePage : website.pages = [page])
    (compiled : Site.compile website options time = .ok site)
    (uploaded : upload account website.id (filesOf site) retries session = (final, .ok keys))
    (sameBucket : asked.bucket = final.bucket) (noFault : asked.nextFault = none) :
    (∀ (websiteId : String) (slug : Option String),
      requestKey websiteId (pathOfSlug slug) = fileKey websiteId (filePath (pathOfSlug slug)) ↔
        endsInFileName (namedSegments (pathOfSlug slug)) = false) ∧
      ((download account website.id (belowRoot page.path) asked).2 =
          .ok (some ⟨Text.utf8Bytes (Page.compile page website options).html, "text/html"⟩) ↔
        endsInFileName (namedSegments page.path) = false ∨
          session.bucket.lookup (requestKey website.id page.path) =
              some (Text.utf8Bytes (Page.compile page website options).html) ∧
            contentTypeOf (requestKey website.id page.path) = "text/html") := by
  obtain ⟨utc, rfl⟩ := eq_compileAt_of_compile compiled
  exact ⟨fun websiteId slug => requestKey_eq_fileKey_iff websiteId (pathOfSlug slug),
    download_of_published onePage uploaded sameBucket noFault⟩

def someAccount : Account := ⟨"e", "a", "s", "published"⟩

/-- The website with one page under a slug. -/
def websiteOfSlug (slug : String) : Website :=
  websiteOfSlugs [("a", slug)]

/-- The page of the website with one page under a slug. -/
def pageOfSlug (slug : String) : Page :=
  ⟨"a", none, some slug, none, none, none, none⟩

/-- The document of a published page without a dot in its slug is fetched. -/
theorem published_page_reachable_plain :
    ∃ final keys, upload someAccount "w"
        (filesOf (compileAt (websiteOfSlug "docs/intro/") {} someUtcNoon)) defaultRetries
          (Session.begin [] []) = (final, .ok keys) ∧
      (download someAccount "w" "docs/intro/" (.begin final.bucket [] : Session)).2 =
        .ok (some ⟨Text.utf8Bytes
          (Page.compile (pageOfSlug "docs/intro/") (websiteOfSlug "docs/intro/") {}).html,
            "text/html"⟩) := by
  obtain ⟨final, keys, uploaded⟩ := upload_of_no_faults (by decide : someAccount.isComplete = true)
    "w" (filesOf (compileAt (websiteOfSlug "docs/intro/") {} someUtcNoon))
    (rfl : (.begin [] [] : Session).faults = [])
  have onePage : (websiteOfSlug "docs/intro/").pages = [pageOfSlug "docs/intro/"] := rfl
  have reachable := published_page_reachable_iff onePage
    (compile_someNoon (websiteOfSlug "docs/intro/") {}) uploaded
    (rfl : (.begin final.bucket [] : Session).bucket = final.bucket) rfl
  have fetched := reachable.2.mpr (Or.inl (by decide))
  exact ⟨final, keys, uploaded, fetched⟩

/-- A page whose slug ends in a version number is published under one key and looked for
under another, where there is nothing. -/
theorem not_published_page_reachable :
    requestKey "w" (pathOfSlug (some "v1.0")) ≠
        fileKey "w" (filePath (pathOfSlug (some "v1.0"))) ∧
      ∃ final keys, upload someAccount "w"
          (filesOf (compileAt (websiteOfSlug "v1.0") {} someUtcNoon)) defaultRetries
            (Session.begin [] []) = (final, .ok keys) ∧
        (download someAccount "w" "v1.0" (.begin final.bucket [] : Session)).2 = .ok none := by
  refine ⟨by decide, ?_⟩
  obtain ⟨final, keys, uploaded⟩ := upload_of_no_faults (by decide : someAccount.isComplete = true)
    "w" (filesOf (compileAt (websiteOfSlug "v1.0") {} someUtcNoon))
    (rfl : (.begin [] [] : Session).faults = [])
  refine ⟨final, keys, uploaded, ?_⟩
  have onePage : (websiteOfSlug "v1.0").pages = [pageOfSlug "v1.0"] := rfl
  have isPlace : requestedFile "v1.0" = "v1.0" := by decide
  have nothing : (filesOf (compileAt (websiteOfSlug "v1.0") {} someUtcNoon)).lookup "v1.0" =
      none := by
    cases found : (filesOf (compileAt (websiteOfSlug "v1.0") {} someUtcNoon)).lookup "v1.0" with
    | none => rfl
    | some file =>
        have ofOther := mem_otherFiles_of_onePage onePage found (by decide)
        obtain ⟨stem, word, isEnding, isPath⟩ := exists_path_eq_of_mem_otherFiles ofOther.1
        have apart : ∀ word ∈ otherEndings, ¬ word.toList <:+ "v1.0".toList := by decide
        refine absurd ?_ (apart word isEnding)
        rw [← ofOther.2, isPath, String.toList_append]
        exact List.suffix_append _ _
  have held := lookup_bucket_of_upload uploaded (requestedFile "v1.0")
  have heldNothing : (.begin final.bucket [] : Session).bucket.lookup (fileKey "w" "v1.0") =
      none := by
    rw [isPlace, nothing] at held
    exact held
  rw [download_of_no_fault (by decide) "w" "v1.0" rfl, requestKey, isPlace, heldNothing]
  rfl

end StaticSite.Storage
