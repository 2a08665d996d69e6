import StaticSite.Proofs.Association
import StaticSite.Proofs.Page.Address
import StaticSite.Proofs.Page.Canonical
import StaticSite.Proofs.Site.Selection
import StaticSite.Site.Files

/-!
Contract: which documents of a compiled site its files hold.

Owns:
- the file under the path of a document, that of the last page which leads there;
- the exact condition under which no document of a page is lost, and under which there
  are as many documents as pages.

Does not own: the content of documents (see `StaticSite.Proofs.Page.Canonical`).
-/

namespace StaticSite.Site

open StaticSite.Page

/-! ## Names of documents -/

def documentEnding : String := ".html"

/-- Whether a path is that of a document. -/
def isDocument (path : String) : Bool :=
  documentEnding.toList.isSuffixOf path.toList

theorem isDocument_filePath (path : String) : isDocument (filePath path) = true := by
  have endsInName := documentName_suffix_filePath path
  have nameEnds : documentEnding.toList <:+ documentName.toList := by decide
  exact List.isSuffixOf_iff_suffix.mpr (nameEnds.trans endsInName)

/-- The endings of the files that are not documents of pages. -/
def otherEndings : List String :=
  ["css", "js", "json", "xml", "txt"]

/-- A path with another ending is not that of a document. -/
theorem isDocument_append_of_mem_otherEndings {word : String} (stem : String)
    (member : word ∈ otherEndings) : isDocument (stem ++ "." ++ word) = false := by
  have apart : ∀ word ∈ otherEndings, ¬ documentEnding.toList <:+ ("." ++ word).toList ∧
      ¬ ("." ++ word).toList <:+ documentEnding.toList := by decide
  refine Bool.eq_false_iff.mpr fun isDocument => ?_
  have endsInHtml := List.isSuffixOf_iff_suffix.mp isDocument
  have endsInWord : ("." ++ word).toList <:+ (stem ++ "." ++ word).toList := by
    rw [String.append_assoc, String.toList_append (s := stem)]
    exact List.suffix_append stem.toList ("." ++ word).toList
  rcases List.suffix_or_suffix_of_suffix endsInHtml endsInWord with htmlInWord | wordInHtml
  · exact (apart word member).1 htmlInWord
  · exact (apart word member).2 wordInHtml

/-- The files that are not documents of pages. -/
def otherFiles (site : CompiledSite) : List File :=
  sharedFiles site ++ site.pages.flatMap (fun page => [styleFile page, scriptFile page]) ++
    site.assets

theorem writtenFiles_eq (site : CompiledSite) :
    writtenFiles site = site.pages.map documentFile ++ otherFiles site := by
  simp only [writtenFiles, otherFiles, List.append_assoc]

/-- Every file of a site but the documents of its pages has another ending. -/
theorem exists_path_eq_of_mem_otherFiles {website : Website} {options : Options}
    {time : UtcTime} {file : File}
    (member : file ∈ otherFiles (compileAt website options time)) :
    ∃ stem, ∃ word ∈ otherEndings, file.path = stem ++ "." ++ word := by
  rcases List.mem_append.mp member with sharedOrBehavior | asset
  · rcases List.mem_append.mp sharedOrBehavior with shared | behavior
    · simp only [sharedFiles, List.mem_cons, List.not_mem_nil, or_false] at shared
      rcases shared with rfl | rfl
      · exact ⟨"css/global", "css", by decide, by simp⟩
      · exact ⟨"js/global", "js", by decide, by simp⟩
    · obtain ⟨page, _, isFile⟩ := List.mem_flatMap.mp behavior
      simp only [List.mem_cons, List.not_mem_nil, or_false] at isFile
      rcases isFile with rfl | rfl
      · refine ⟨"css/page-" ++ page.asset, "css", by decide, ?_⟩
        simp [styleFile, String.append_assoc]
      · refine ⟨"js/page-" ++ page.asset, "js", by decide, ?_⟩
        simp [scriptFile, String.append_assoc]
  · simp only [compileAt, assetsOf, List.mem_cons, List.not_mem_nil, or_false] at asset
    rcases asset with rfl | rfl | rfl | rfl
    · exact ⟨"manifest", "json", by decide, by simp⟩
    · exact ⟨"sitemap", "xml", by decide, by simp⟩
    · exact ⟨"robots", "txt", by decide, by simp⟩
    · exact ⟨"sw", "js", by decide, by simp⟩

/-- No file of a site but the documents of its pages has the name of a document. -/
theorem isDocument_otherFiles {website : Website} {options : Options} {time : UtcTime}
    {file : File} (member : file ∈ otherFiles (compileAt website options time)) :
    isDocument file.path = false := by
  obtain ⟨stem, word, isEnding, isPath⟩ := exists_path_eq_of_mem_otherFiles member
  rw [isPath]
  exact isDocument_append_of_mem_otherEndings stem isEnding

theorem nodup_names_filesOf (site : CompiledSite) : ((filesOf site).map Prod.fst).Nodup :=
  Association.nodup_names_ofBindings _

/-! ## The file under the path of a document -/

theorem lookup_map_pair (files : List File) (path : String) :
    (files.map fun file => (file.path, file)).lookup path =
      files.find? (·.path == path) := by
  induction files with
  | nil => rfl
  | cons file others inductionHypothesis =>
      rw [List.map_cons, List.lookup_cons, List.find?_cons, inductionHypothesis,
        Bool.beq_comm (a := path)]

/-- Under the path of a document stands the document of the last page that leads there. -/
theorem lookup_filesOf_filePath (website : Website) (options : Options) (time : UtcTime)
    (path : String) :
    (filesOf (compileAt website options time)).lookup (filePath path) =
      ((compileAt website options time).pages.reverse.find?
        fun page => namedSegments page.path == namedSegments path).map documentFile := by
  have noOther : (otherFiles (compileAt website options time)).reverse.find?
      (·.path == filePath path) = none := by
    refine List.find?_eq_none.mpr fun file member isPath => ?_
    have notDocument := isDocument_otherFiles (List.mem_reverse.mp member)
    rw [beq_iff_eq.mp isPath, isDocument_filePath] at notDocument
    exact absurd notDocument (by decide)
  have sameTest : ((fun file => file.path == filePath path) ∘ documentFile) =
      fun page : CompiledPage => namedSegments page.path == namedSegments path := by
    funext page
    rw [Bool.eq_iff_iff]
    simp only [Function.comp, documentFile, beq_iff_eq]
    exact filePath_eq_iff page.path path
  rw [filesOf, filesAfter, Association.lookup_ofBindings, ← List.map_reverse, lookup_map_pair,
    writtenFiles_eq, List.reverse_append, List.find?_append, noOther, Option.none_or,
    ← List.map_reverse, List.find?_map, sameTest]

/-! ## When no document is lost -/

/-- The segments that the paths of the pages of a site lead to. -/
def pageSegments (site : CompiledSite) : List (List String) :=
  site.pages.map fun page => namedSegments page.path

theorem path_compile (page : Page) (website : Website) (options : Options) :
    (Page.compile page website options).path = page.path := by
  unfold Page.compile
  split <;> simp only [compileContent]

theorem pageId_compile (page : Page) (website : Website) (options : Options) :
    (Page.compile page website options).pageId = page.id := by
  unfold Page.compile
  split <;> simp only [compileContent]

theorem path_documentFile_compile (page : Page) (website : Website) (options : Options) :
    (documentFile (Page.compile page website options)).path = filePath page.path := by
  simp only [documentFile, path_compile]

theorem pageSegments_compileAt (website : Website) (options : Options) (time : UtcTime) :
    pageSegments (compileAt website options time) =
      (pagesOf website).map fun page => namedSegments page.path := by
  simp only [pageSegments, compileAt, List.map_map, Function.comp_def, path_compile]

theorem find?_eq_some_of_nodup {Item Key : Type} [BEq Key] [LawfulBEq Key] {key : Item → Key}
    {items : List Item} (distinct : (items.map key).Nodup) {item : Item} (member : item ∈ items) :
    items.find? (fun other => key other == key item) = some item := by
  have someFound : (items.find? fun other => key other == key item).isSome := by
    exact List.find?_isSome.mpr ⟨item, member, beq_self_eq_true _⟩
  obtain ⟨found, isFound⟩ := Option.isSome_iff_exists.mp someFound
  have sameKey : key found = key item := by
    have test := List.find?_some isFound
    exact beq_iff_eq.mp test
  have sameItem := List.inj_on_of_nodup_map distinct (List.mem_of_find?_eq_some isFound) member
    sameKey
  rw [isFound, sameItem]

theorem pairwise_html (website : Website) (options : Options) (time : UtcTime) :
    (compileAt website options time).pages.Pairwise fun page other => page.html ≠ other.html := by
  refine List.pairwise_map.mpr ((pairwise_apart_pagesOf website).imp ?_)
  intro page other apart same
  exact apart.path (path_eq_of_html_eq same)

/-- Every page of a site has its document under its path exactly if the paths of no two
pages lead to the same segments. -/
theorem lookup_filesOf_documents_iff (website : Website) (options : Options)
    (time : UtcTime) :
    (∀ page ∈ (compileAt website options time).pages,
      (filesOf (compileAt website options time)).lookup (filePath page.path) =
        some (documentFile page)) ↔
      (pageSegments (compileAt website options time)).Nodup := by
  constructor
  · intro kept
    refine List.pairwise_map.mpr
      ((pairwise_html website options time).imp_of_mem ?_)
    intro page other member otherMember differ sameSegments
    have keptPage := kept page member
    have keptOther := kept other otherMember
    rw [(filePath_eq_iff page.path other.path).mpr sameSegments, keptOther] at keptPage
    exact differ (congrArg File.content (Option.some.inj keptPage)).symm
  · intro distinct page member
    have distinctReverse : ((compileAt website options time).pages.reverse.map
        fun page => namedSegments page.path).Nodup := by
      rw [List.map_reverse]
      exact List.nodup_reverse.mpr distinct
    rw [lookup_filesOf_filePath,
      find?_eq_some_of_nodup distinctReverse (List.mem_reverse.mpr member)]
    rfl

/-! ## The number of documents -/

/-- The names of the documents among the files of a site. -/
def documentNames (site : CompiledSite) : List String :=
  ((filesOf site).map Prod.fst).filter isDocument

/-- The paths of the documents of a site, one for each page. -/
def pageFiles (site : CompiledSite) : List String :=
  site.pages.map fun page => filePath page.path

theorem mem_documentNames_iff (website : Website) (options : Options) (time : UtcTime)
    (name : String) :
    name ∈ documentNames (compileAt website options time) ↔
      name ∈ pageFiles (compileAt website options time) := by
  rw [documentNames, List.mem_filter, filesOf, filesAfter, Association.mem_names_ofBindings,
    writtenFiles_eq]
  simp only [List.map_map, List.map_append, List.mem_append]
  change (name ∈ pageFiles _ ∨ _) ∧ _ ↔ _
  constructor
  · rintro ⟨ofDocument | ofOther, isDocumentName⟩
    · exact ofDocument
    · obtain ⟨file, member, rfl⟩ := List.mem_map.mp ofOther
      have notDocument := isDocument_otherFiles member
      exact absurd isDocumentName (Bool.eq_false_iff.mp notDocument)
  · intro ofDocument
    obtain ⟨page, _, isName⟩ := List.mem_map.mp ofDocument
    exact ⟨Or.inl ofDocument, by rw [← isName]; exact isDocument_filePath page.path⟩

theorem nodup_documentNames (site : CompiledSite) : (documentNames site).Nodup :=
  (nodup_names_filesOf site).filter _

theorem nodup_pageFiles_iff (site : CompiledSite) :
    (pageFiles site).Nodup ↔ (pageSegments site).Nodup := by
  simp only [pageFiles, pageSegments, List.Nodup, List.pairwise_map, ne_eq, filePath_eq_iff]

theorem length_documentNames (website : Website) (options : Options) (time : UtcTime) :
    (documentNames (compileAt website options time)).length =
      (pageFiles (compileAt website options time)).dedup.length := by
  refine List.Perm.length_eq ?_
  refine (List.perm_ext_iff_of_nodup (nodup_documentNames _) (List.nodup_dedup _)).mpr ?_
  intro name
  rw [mem_documentNames_iff, List.mem_dedup]

theorem length_dedup_iff (names : List String) :
    names.dedup.length = names.length ↔ names.Nodup := by
  constructor
  · intro sameLength
    exact List.dedup_eq_self.mp ((List.dedup_sublist names).eq_of_length sameLength)
  · intro distinct
    rw [List.dedup_eq_self.mpr distinct]

/-- A site has as many documents as pages exactly if the paths of no two pages lead to the
same segments. -/
theorem length_documentNames_iff (website : Website) (options : Options) (time : UtcTime) :
    (documentNames (compileAt website options time)).length =
        (compileAt website options time).pages.length ↔
      (pageSegments (compileAt website options time)).Nodup := by
  rw [length_documentNames, ← nodup_pageFiles_iff, ← length_dedup_iff, pageFiles,
    List.length_map]

/-! ## Documents of a compiled website -/

theorem eq_compileAt_of_compile {website : Website} {options : Options} {time : ZonedTime}
    {site : CompiledSite} (compiled : compile website options time = .ok site) :
    ∃ utc, site = compileAt website options utc := by
  unfold compile at compiled
  split at compiled
  · rename_i utc _
    exact ⟨utc, (Except.ok.inj compiled).symm⟩
  · cases compiled

/-- A compiled site keeps the documents of all its pages, each under its own path, exactly
if the paths of no two pages have the same segments that name something. In that case there
are as many documents as pages. In every case the last page that leads to a file decides
what it holds. -/
theorem documents_kept_iff {website : Website} {options : Options} {time : ZonedTime}
    {site : CompiledSite} (compiled : compile website options time = .ok site) :
    ((∀ page ∈ site.pages, (filesOf site).lookup (filePath page.path) =
        some ⟨filePath page.path, page.html, "text/html"⟩) ↔ (pageSegments site).Nodup) ∧
      ((documentNames site).length = site.pages.length ↔ (pageSegments site).Nodup) ∧
      ∀ path, (filesOf site).lookup (filePath path) =
        (site.pages.reverse.find? fun page =>
          namedSegments page.path == namedSegments path).map documentFile := by
  obtain ⟨utc, rfl⟩ := eq_compileAt_of_compile compiled
  exact ⟨lookup_filesOf_documents_iff website options utc,
    length_documentNames_iff website options utc,
    lookup_filesOf_filePath website options utc⟩

/-- A website with the pages of some slugs, named by them. -/
def websiteOfSlugs (slugs : List (String × String)) : Website :=
  { id := "w"
    name := none
    description := none
    language := none
    theme := none
    pages := slugs.map fun slug => ⟨slug.1, none, some slug.2, none, none, none, none⟩ }

def someNoon : ZonedTime := ⟨⟨2024, 1, 1⟩, 12, 0, 0, 0, 0, 0⟩

def someUtcNoon : UtcTime := ⟨⟨2024, 1, 1⟩, 12, 0, 0⟩

theorem compile_someNoon (website : Website) (options : Options) :
    compile website options someNoon = .ok (compileAt website options someUtcNoon) :=
  rfl

/-- A site with two pages side by side has the documents of both. -/
theorem documents_kept_of_two_pages :
    ∃ site, compile (websiteOfSlugs [("a", "about"), ("b", "/about/us")]) {} someNoon = .ok site ∧
      (∀ page ∈ site.pages, (filesOf site).lookup (filePath page.path) =
        some ⟨filePath page.path, page.html, "text/html"⟩) ∧ (documentNames site).length = 2 := by
  have compiled := compile_someNoon (websiteOfSlugs [("a", "about"), ("b", "/about/us")]) {}
  have distinct : (pageSegments (compileAt (websiteOfSlugs [("a", "about"), ("b", "/about/us")]) {}
      someUtcNoon)).Nodup := by
    rw [pageSegments_compileAt]
    decide +kernel
  have kept := documents_kept_iff compiled
  refine ⟨_, compiled, kept.1.mpr distinct, (kept.2.1.mpr distinct).trans ?_⟩
  decide

/-- The documents of two pages whose slugs differ in a slash at the end are not both kept. -/
theorem not_documents_kept :
    ¬ ∀ (website : Website) (options : Options) (time : ZonedTime) (site : CompiledSite),
      compile website options time = .ok site → ∀ page ∈ site.pages,
        (filesOf site).lookup (filePath page.path) =
          some ⟨filePath page.path, page.html, "text/html"⟩ := by
  intro kept
  have allKept := kept (websiteOfSlugs [("a", "about"), ("b", "about/")]) {} someNoon _
    (compile_someNoon _ {})
  have distinct := (lookup_filesOf_documents_iff _ {} someUtcNoon).mp allKept
  rw [pageSegments_compileAt] at distinct
  revert distinct
  decide +kernel

end StaticSite.Site
