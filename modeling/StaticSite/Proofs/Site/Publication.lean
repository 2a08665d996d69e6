import StaticSite.Proofs.Json.Writing
import StaticSite.Proofs.Page.Requests
import StaticSite.Proofs.Site.Documents
import StaticSite.Proofs.Text.Split

/-!
Contract: the files that documents and the service worker ask for are among the files of a site.

Owns:
- files that are the only ones written under their path;
- the law that all files but the documents of pages are such files;
- the manifest as it is read back, and the addresses that the service worker keeps;
- the law that every file a page asks for is there and holds what it should.

Does not own: what a document asks for (see `StaticSite.Proofs.Page.Requests`), and the documents
themselves (see `StaticSite.Proofs.Site.Documents`).
-/

namespace StaticSite.Site

open StaticSite.Markup StaticSite.Page

/-! ## Files that no other file takes the place of -/

/-- Whether a file with some content is the only one that is written under a path, and stands
there among the files of a site. -/
def Publishes (site : CompiledSite) (path content : String) : Prop :=
  ∃ contentType,
    (writtenFiles site).filter (·.path == path) = [⟨path, content, contentType⟩] ∧
      (filesOf site).lookup path = some ⟨path, content, contentType⟩

theorem filter_path_eq_singleton {files : List File} (distinct : (files.map (·.path)).Nodup)
    {file : File} (member : file ∈ files) :
    files.filter (·.path == file.path) = [file] := by
  induction files with
  | nil => cases member
  | cons first others inductionHypothesis =>
      obtain ⟨notAgain, distinctLater⟩ := List.nodup_cons.mp distinct
      rcases List.mem_cons.mp member with rfl | later
      · have noneLater : others.filter (·.path == file.path) = [] := by
          refine List.filter_eq_nil_iff.mpr fun other isOther samePath => ?_
          exact notAgain (List.mem_map.mpr ⟨other, isOther, beq_iff_eq.mp samePath⟩)
        rw [List.filter_cons, if_pos (beq_self_eq_true _), noneLater]
      · have differs : ¬ (first.path == file.path) = true := by
          intro samePath
          exact notAgain (List.mem_map.mpr ⟨file, later, (beq_iff_eq.mp samePath).symm⟩)
        rw [List.filter_cons, if_neg differs]
        exact inductionHypothesis distinctLater later

/-- The file under a path is the last that is written there. -/
theorem lookup_filesOf (site : CompiledSite) (path : String) :
    (filesOf site).lookup path = ((writtenFiles site).filter (·.path == path)).getLast? := by
  rw [filesOf, filesAfter, Association.lookup_ofBindings, ← List.map_reverse, lookup_map_pair,
    ← List.head?_filter, List.filter_reverse, List.head?_reverse]

/-! ## The paths of files that are no documents -/

/-- Whether a path is that of the style sheet or of the script of a page. -/
def isPagePath (path : String) : Bool :=
  "css/page-".toList.isPrefixOf path.toList || "js/page-".toList.isPrefixOf path.toList

/-- The files that every site has, whatever its pages. -/
def fixedFiles (site : CompiledSite) : List File :=
  sharedFiles site ++ site.assets

theorem perm_otherFiles (site : CompiledSite) :
    (otherFiles site).Perm
      (fixedFiles site ++ site.pages.flatMap fun page => [styleFile page, scriptFile page]) := by
  unfold otherFiles fixedFiles
  rw [List.append_assoc, List.append_assoc]
  exact List.Perm.append_left _ List.perm_append_comm

theorem map_path_fixedFiles (website : Website) (options : Options) (time : UtcTime) :
    (fixedFiles (compileAt website options time)).map (·.path) =
      [ "css/global.css", "js/global.js", "manifest.json", "sitemap.xml", "robots.txt",
        "sw.js" ] :=
  rfl

theorem isPagePath_of_mem {page : CompiledPage} {file : File}
    (member : file ∈ [styleFile page, scriptFile page]) : isPagePath file.path = true := by
  simp only [List.mem_cons, List.not_mem_nil, or_false] at member
  rw [isPagePath, Bool.or_eq_true, List.isPrefixOf_iff_prefix, List.isPrefixOf_iff_prefix]
  rcases member with rfl | rfl
  · left
    rw [styleFile, String.append_assoc, String.toList_append]
    exact List.prefix_append _ _
  · right
    rw [scriptFile, String.append_assoc, String.toList_append]
    exact List.prefix_append _ _

theorem stylePath_ne_scriptPath (page other : CompiledPage) :
    (styleFile page).path ≠ (scriptFile other).path := by
  intro samePath
  have characters := congrArg String.toList samePath
  simp only [styleFile, scriptFile, String.append_assoc, String.toList_append] at characters
  exact absurd (List.cons.inj characters).1 (by decide)

/-- The paths of the files of a page tell its file name. -/
theorem asset_eq_of_path_eq {page other : CompiledPage} {file another : File}
    (member : file ∈ [styleFile page, scriptFile page])
    (isOther : another ∈ [styleFile other, scriptFile other])
    (samePath : file.path = another.path) : page.asset = other.asset := by
  simp only [List.mem_cons, List.not_mem_nil, or_false] at member isOther
  rcases member with rfl | rfl
  · rcases isOther with rfl | rfl
    · exact (String.append_right_inj _).mp ((String.append_left_inj _).mp samePath)
    · exact absurd samePath (stylePath_ne_scriptPath page other)
  · rcases isOther with rfl | rfl
    · exact absurd samePath.symm (stylePath_ne_scriptPath other page)
    · exact (String.append_right_inj _).mp ((String.append_left_inj _).mp samePath)

/-- The pages of a site differ in their file names. -/
theorem pairwise_asset_pages (website : Website) (options : Options) (time : UtcTime) :
    (compileAt website options time).pages.Pairwise fun page other => page.asset ≠ other.asset := by
  refine List.pairwise_map.mpr ((pairwise_apart_pagesOf website).imp ?_)
  intro page other apart
  rw [CompiledPage.asset, CompiledPage.asset, pageId_compile, pageId_compile]
  exact apart.asset

/-- No two files that are no documents of pages are written under one path. -/
theorem nodup_path_otherFiles (website : Website) (options : Options) (time : UtcTime) :
    ((otherFiles (compileAt website options time)).map (·.path)).Nodup := by
  rw [((perm_otherFiles _).map _).nodup_iff, List.map_append, List.nodup_append]
  refine ⟨?_, ?_, ?_⟩
  · rw [map_path_fixedFiles]
    decide
  · rw [List.map_flatMap, List.nodup_flatMap]
    constructor
    · intro page _
      simpa using stylePath_ne_scriptPath page page
    · refine (pairwise_asset_pages website options time).imp fun {page other} differ => ?_
      intro path isPath isOther
      obtain ⟨file, member, rfl⟩ := List.mem_map.mp isPath
      obtain ⟨another, isAnother, samePath⟩ := List.mem_map.mp isOther
      exact differ (asset_eq_of_path_eq member isAnother samePath.symm)
  · have notOfPages : ∀ path ∈ (fixedFiles (compileAt website options time)).map (·.path),
        isPagePath path = false := by
      rw [map_path_fixedFiles]
      decide
    intro path isFixed other isOfPage samePath
    obtain ⟨file, member, rfl⟩ := List.mem_map.mp isOfPage
    obtain ⟨page, _, isFile⟩ := List.mem_flatMap.mp member
    have isPage := isPagePath_of_mem isFile
    rw [← samePath, notOfPages path isFixed] at isPage
    cases isPage

/-- Every file that is no document of a page is the only one under its path. -/
theorem filter_writtenFiles_of_mem {website : Website} {options : Options} {time : UtcTime}
    {file : File} (member : file ∈ otherFiles (compileAt website options time)) :
    (writtenFiles (compileAt website options time)).filter (·.path == file.path) = [file] := by
  have noDocument : ((compileAt website options time).pages.map documentFile).filter
      (·.path == file.path) = [] := by
    refine List.filter_eq_nil_iff.mpr fun other isOther samePath => ?_
    obtain ⟨page, _, rfl⟩ := List.mem_map.mp isOther
    have notDocument := isDocument_otherFiles member
    rw [← beq_iff_eq.mp samePath, documentFile, isDocument_filePath] at notDocument
    cases notDocument
  rw [writtenFiles_eq, List.filter_append, noDocument, List.nil_append]
  exact filter_path_eq_singleton (nodup_path_otherFiles website options time) member

theorem lookup_filesOf_of_mem {website : Website} {options : Options} {time : UtcTime}
    {file : File} (member : file ∈ otherFiles (compileAt website options time)) :
    (filesOf (compileAt website options time)).lookup file.path = some file := by
  rw [lookup_filesOf, filter_writtenFiles_of_mem member]
  rfl

theorem publishes_of_mem_otherFiles {website : Website} {options : Options} {time : UtcTime}
    {file : File} (member : file ∈ otherFiles (compileAt website options time)) :
    Publishes (compileAt website options time) file.path file.content :=
  ⟨file.contentType, filter_writtenFiles_of_mem member, lookup_filesOf_of_mem member⟩

/-! ## The manifest -/

theorem isRegular_icon (size : Nat) : (icon size).IsRegular := by
  refine Json.isRegular_object_iff.mpr ⟨by simp, ?_⟩
  exact Json.areRegular_cons (Json.isRegular_text _) (Json.areRegular_cons (Json.isRegular_text _)
    (Json.areRegular_cons (Json.isRegular_text _) Json.areRegular_nil))

theorem isRegular_manifestOf (website : Website) (options : Options) :
    (manifestOf website options).IsRegular := by
  have icons : (Json.array [icon 192, icon 512]).IsRegular := by
    apply Json.isRegular_array_iff.mpr
    exact List.forall_mem_cons.mpr ⟨isRegular_icon 192,
      List.forall_mem_singleton.mpr (isRegular_icon 512)⟩
  have categories : (Json.array [.text "business", .text "productivity"]).IsRegular := by
    apply Json.isRegular_array_iff.mpr
    exact List.forall_mem_cons.mpr ⟨Json.isRegular_text _,
      List.forall_mem_singleton.mpr (Json.isRegular_text _)⟩
  have text {name value} {members : Json.Members} (others : Json.AreRegular members) :
      Json.AreRegular ((name, .text value) :: members) :=
    Json.areRegular_cons (Json.isRegular_text value) others
  exact Json.isRegular_object_iff.mpr ⟨by simp, text (text (text (text (text (text (text
    (Json.areRegular_cons icons (Json.areRegular_cons categories
      (text Json.areRegular_nil)))))))))⟩

theorem read_manifestText (website : Website) (options : Options) :
    Json.read (manifestText (manifestOf website options)) = .ok (manifestOf website options) := by
  have isDepth : (manifestOf website options).depth = 3 := rfl
  apply Json.read_write_indentedLayout (isRegular_manifestOf website options)
  · rfl
  · rw [isDepth]
    decide

/-! ## The service worker -/

/-- The texts of a line that stand in single quotes, in order. -/
def quotedParts : List String → List String
  | _ :: quoted :: rest => quoted :: quotedParts rest
  | _ => []

/-- The beginning of the line of a service worker that lists the files it keeps. -/
def shellStart : String := "const SHELL = ["

/-- The line of the service worker of a site that lists the files it keeps. -/
def shellLine : String :=
  "const SHELL = ['/css/global.css', '/js/global.js', '/manifest.json'];"

/-- The addresses of the files that a service worker keeps. -/
def shellAddresses (script : String) : List String :=
  match (Text.splitAt '\n' script).find? fun line => shellStart.toList.isPrefixOf line.toList with
  | some line => quotedParts (Text.splitAt '\'' line)
  | none => []

theorem newline_not_mem_cacheName (websiteId : String) : '\n' ∉ (cacheName websiteId).toList := by
  intro member
  rw [cacheName, Json.toList_quote] at member
  rcases List.mem_cons.mp member with isQuote | later
  · cases isQuote
  · rcases List.mem_append.mp later with inText | isQuote
    · exact absurd (Json.oneLine_quote _ '\n' inText) (by decide)
    · cases List.mem_singleton.mp isQuote

/-- A service worker keeps the files that all pages share, and the manifest. -/
theorem shellAddresses_serviceWorker (websiteId : String) :
    shellAddresses (serviceWorker websiteId) =
      ["/css/global.css", "/js/global.js", "/manifest.json"] := by
  have nameOnLine : '\n' ∉ ("const CACHE_NAME = " ++ cacheName websiteId ++ ";").toList := by
    intro member
    rw [String.toList_append, String.toList_append] at member
    rcases List.mem_append.mp member with start | semicolon
    · rcases List.mem_append.mp start with inConst | inName
      · exact absurd inConst (by decide)
      · exact newline_not_mem_cacheName websiteId inName
    · exact absurd semicolon (by decide)
  have notShell : shellStart.toList.isPrefixOf
      ("const CACHE_NAME = " ++ cacheName websiteId ++ ";").toList = false := by
    rw [String.append_assoc, String.toList_append]
    rfl
  have onLine : '\n' ∉ shellLine.toList := by decide +kernel
  have isShell : shellStart.toList.isPrefixOf shellLine.toList = true := by decide +kernel
  have parts : quotedParts (Text.splitAt '\'' shellLine) =
      ["/css/global.css", "/js/global.js", "/manifest.json"] := by decide +kernel
  have isCode : workerCode = .line shellLine :: workerCode.tail := rfl
  have isScript : serviceWorker websiteId = Text.endLines
      (("const CACHE_NAME = " ++ cacheName websiteId ++ ";") :: shellLine ::
        Script.codeLines workerCode.tail) := by
    rw [serviceWorker, Script.text, isCode, Script.codeLines, Script.codeLines, Script.Code.lines,
      Script.Code.lines, List.singleton_append, List.singleton_append, List.tail_cons]
  rw [shellAddresses, isScript, Text.splitAt_endLines_cons nameOnLine,
    Text.splitAt_endLines_cons onLine, List.find?_cons, notShell, List.find?_cons, isShell]
  exact parts

/-! ## Everything a page asks for -/

/-- Whether a document asks for the files of its page and for the shared ones around the given text
of its components, and registers the service worker. -/
def AsksAround (page : CompiledPage) (components : String) : Prop :=
  (∃ opening closing, page.html = opening ++ components ++ closing ∧
    requestedFiles opening = Page.openingRequests page.asset ∧
    requestedFiles closing = Page.closingRequests page.asset) ∧
  "navigator.serviceWorker.register('/sw.js')".toList <:+: page.html.toList

theorem asksAround_compile (page : Page) (website : Website) (options : Options) :
    AsksAround (Page.compile page website options) (Page.componentText page options) := by
  have sameAsset : (Page.compile page website options).asset = page.asset := by
    rw [CompiledPage.asset, pageId_compile, Page.asset]
  refine ⟨⟨_, _, html_eq_append page website options, ?_, ?_⟩,
    registration_infix_html page website options⟩
  · rw [sameAsset]
    exact requestedFiles_documentOpening page website options _ _
  · rw [sameAsset]
    exact requestedFiles_documentClosing page website options _ _

/-- Whatever the slugs and the ids of the pages, every file that a page asks for is published with
the right content: its style sheet and its script, the shared ones, the manifest, which reads back
as that of the site, and the service worker with the files that it keeps. Built-in components ask
for no further files. -/
theorem requested_files_published {website : Website} {options : Options} {time : ZonedTime}
    {site : CompiledSite} (compiled : compile website options time = .ok site) :
    (∀ page ∈ site.pages,
      (∃ source ∈ website.pages, page.pageId = source.id ∧
        AsksAround page (Page.componentText source options)) ∧
      (options.emitter = Emission.Emitter.builtIn → requestedFiles page.html =
        Page.openingRequests page.asset ++ Page.closingRequests page.asset) ∧
      Publishes site ("css/page-" ++ page.asset ++ ".css") page.css ∧
      Publishes site ("js/page-" ++ page.asset ++ ".js") page.js) ∧
    Publishes site "css/global.css" site.globalStyle ∧
    Publishes site "js/global.js" site.globalScript ∧
    (∃ text, Publishes site "manifest.json" text ∧ Json.read text = .ok site.manifest) ∧
    Publishes site "sw.js" site.serviceWorker ∧
    shellAddresses site.serviceWorker =
      ["/css/global.css", "/js/global.js", "/manifest.json"] := by
  obtain ⟨utc, rfl⟩ := eq_compileAt_of_compile compiled
  have ofFixed : ∀ file ∈ fixedFiles (compileAt website options utc),
      Publishes (compileAt website options utc) file.path file.content := by
    intro file member
    apply publishes_of_mem_otherFiles
    exact (perm_otherFiles _).mem_iff.mpr (List.mem_append_left _ member)
  have ofPage : ∀ page ∈ (compileAt website options utc).pages,
      ∀ file ∈ [styleFile page, scriptFile page],
        Publishes (compileAt website options utc) file.path file.content := by
    intro page isPage file member
    apply publishes_of_mem_otherFiles
    exact (perm_otherFiles _).mem_iff.mpr
      (List.mem_append_right _ (List.mem_flatMap.mpr ⟨page, isPage, member⟩))
  refine ⟨?_, ofFixed _ (.head _), ofFixed _ (.tail _ (.head _)), ?_,
    ofFixed _ (.tail _ (.tail _ (.tail _ (.tail _ (.tail _ (.head _)))))),
    shellAddresses_serviceWorker website.id⟩
  · intro page isPage
    refine ⟨?_, ?_, ofPage page isPage _ List.mem_cons_self,
      ofPage page isPage _ (List.mem_cons_of_mem _ List.mem_cons_self)⟩
    · obtain ⟨source, isSource, rfl⟩ := List.mem_map.mp isPage
      exact ⟨source, mem_pages_of_mem_pagesOf isSource, pageId_compile source website options,
        asksAround_compile source website options⟩
    · obtain ⟨source, _, rfl⟩ := List.mem_map.mp isPage
      intro builtIn
      rw [CompiledPage.asset, pageId_compile]
      exact requestedFiles_html source website options builtIn
  · exact ⟨_, ofFixed _ (.tail _ (.tail _ (.head _))), read_manifestText website options⟩

/-- Slugs that are paths of shared files take the place of none of them. -/
theorem requested_files_published_of_hostile_slugs :
    ∃ site, compile (websiteOfSlugs [("a b", "css/global.css"), ("../sw", "sw.js")]) {} someNoon =
        .ok site ∧
      site.pages.map (·.path) = ["/css/global.css", "/sw.js"] ∧
      (∀ page ∈ site.pages, requestedFiles page.html =
          Page.openingRequests page.asset ++ Page.closingRequests page.asset ∧
        Publishes site ("css/page-" ++ page.asset ++ ".css") page.css) ∧
      Publishes site "css/global.css" site.globalStyle ∧
      Publishes site "sw.js" site.serviceWorker := by
  have compiled := compile_someNoon
    (websiteOfSlugs [("a b", "css/global.css"), ("../sw", "sw.js")]) {}
  obtain ⟨ofPages, globalStyle, _, _, worker, _⟩ := requested_files_published compiled
  refine ⟨_, compiled, ?_, ?_, globalStyle, worker⟩
  · simp only [compileAt, List.map_map, Function.comp_def, path_compile]
    decide +kernel
  · intro page isPage
    obtain ⟨_, requested, style, _⟩ := ofPages page isPage
    exact ⟨requested rfl, style⟩

end StaticSite.Site
