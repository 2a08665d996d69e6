import StaticSite.Proofs.Page.AssetName
import StaticSite.Proofs.Site.Publication
import StaticSite.Proofs.Storage.Key

/-!
Contract: paths that lead nowhere but down.

Owns:
- paths without empty segments and dot segments, and when joined segments make up such a path;
- the law that the files of a site have such paths, and the files that requests mean as well.

Does not own: which of these files a bucket holds (see `StaticSite.Proofs.Storage.Reachability`).
-/

namespace StaticSite.Page

/-! ## Paths of named segments -/

/-- Whether no segment of a path is empty or a dot segment. Such a path is relative, because one
that begins with a slash has an empty segment. -/
def Descends (path : String) : Prop :=
  ∀ segment ∈ Text.splitAt '/' path, segment ≠ "" ∧ segment ≠ "." ∧ segment ≠ ".."

instance (path : String) : Decidable (Descends path) :=
  inferInstanceAs
    (Decidable (∀ segment ∈ Text.splitAt '/' path, segment ≠ "" ∧ segment ≠ "." ∧ segment ≠ ".."))

theorem descends_iff {path : String} :
    Descends path ↔ ∀ segment ∈ Text.splitAt '/' path, isNamedSegment segment = true := by
  simp only [Descends, isNamedSegment, Bool.and_eq_true, bne_iff_ne, and_assoc]

theorem descends_intercalate_namedSegments {path : String}
    (someSegments : namedSegments path ≠ []) :
    Descends ("/".intercalate (namedSegments path)) := by
  refine descends_iff.mpr fun segment member => ?_
  rw [splitAt_intercalate_namedSegments someSegments] at member
  exact isNamedSegment_of_mem_namedSegments member

theorem descends_filePath (path : String) : Descends (filePath path) := by
  refine descends_iff.mpr fun segment member => ?_
  rw [splitAt_filePath, List.mem_append, List.mem_singleton] at member
  rcases member with named | isName
  · exact isNamedSegment_of_mem_namedSegments named
  · rw [isName]
    decide

theorem isNamedSegment_of_toList_cons {segment : String} {first : Char} {others : List Char}
    (begins : segment.toList = first :: others) (notDot : first ≠ '.') :
    isNamedSegment segment = true := by
  have differs (other : String) (otherwise : other.toList.head? ≠ some first) : segment ≠ other := by
    rintro rfl
    rw [begins] at otherwise
    exact otherwise rfl
  have dotFirst : some '.' ≠ some first := fun same => notDot (Option.some.inj same).symm
  simp only [isNamedSegment, Bool.and_eq_true, bne_iff_ne]
  exact ⟨⟨differs "" nofun, differs "." dotFirst⟩, differs ".." dotFirst⟩

/-- A file in a directory has a path of named segments if its name is one. -/
theorem descends_append_slash {directory name : String}
    (plainDirectory : '/' ∉ directory.toList) (plainName : '/' ∉ name.toList)
    (namedDirectory : isNamedSegment directory = true) (named : isNamedSegment name = true) :
    Descends (directory ++ "/" ++ name) := by
  refine descends_iff.mpr fun segment member => ?_
  rw [Text.splitAt_append_of_not_mem rfl plainName, Text.splitAt_of_not_mem plainDirectory] at member
  rcases List.mem_cons.mp member with rfl | isName
  · exact namedDirectory
  · rw [List.mem_singleton.mp isName]
    exact named

/-! ## The files of a page -/

theorem slash_not_mem_assetName (id : String) : '/' ∉ (assetName id).toList := by
  intro member
  exact absurd (isSafeId_assetName id '/' member) (by decide)

theorem descends_pageFile {directory ending : String} (plainDirectory : '/' ∉ directory.toList)
    (namedDirectory : isNamedSegment directory = true) (plainEnding : '/' ∉ ending.toList)
    (id : String) : Descends (directory ++ "/" ++ ("page-" ++ assetName id ++ ending)) := by
  have isText : ("page-" ++ assetName id ++ ending).toList =
      'p' :: ("age-".toList ++ (assetName id).toList ++ ending.toList) := by
    simp
  refine descends_append_slash plainDirectory ?_ namedDirectory
    (isNamedSegment_of_toList_cons isText (by decide))
  rw [String.toList_append, String.toList_append, List.mem_append, List.mem_append]
  rintro ((inWord | inName) | inEnding)
  · exact absurd inWord (by decide)
  · exact slash_not_mem_assetName id inName
  · exact plainEnding inEnding

end StaticSite.Page

namespace StaticSite.Site

open StaticSite.Page

/-! ## The files of a site -/

theorem descends_styleFile (page : CompiledPage) : Descends (styleFile page).path := by
  have isPath : (styleFile page).path = "css" ++ "/" ++ ("page-" ++ page.asset ++ ".css") := by
    apply String.toList_inj.mp
    simp [styleFile]
  rw [isPath]
  exact descends_pageFile (by decide) (by decide) (by decide) page.pageId

theorem descends_scriptFile (page : CompiledPage) : Descends (scriptFile page).path := by
  have isPath : (scriptFile page).path = "js" ++ "/" ++ ("page-" ++ page.asset ++ ".js") := by
    apply String.toList_inj.mp
    simp [scriptFile]
  rw [isPath]
  exact descends_pageFile (by decide) (by decide) (by decide) page.pageId

theorem descends_of_mem_fixedFiles {website : Website} {options : Options} {time : UtcTime}
    {file : File} (member : file ∈ fixedFiles (compileAt website options time)) :
    Descends file.path := by
  have allDescend : ∀ path ∈ [ "css/global.css", "js/global.js", "manifest.json", "sitemap.xml",
      "robots.txt", "sw.js" ], Descends path := by
    decide
  rw [← map_path_fixedFiles website options time] at allDescend
  exact allDescend file.path (List.mem_map_of_mem member)

theorem descends_of_mem_writtenFiles {website : Website} {options : Options} {time : UtcTime}
    {file : File} (member : file ∈ writtenFiles (compileAt website options time)) :
    Descends file.path := by
  rw [writtenFiles_eq, List.mem_append, (perm_otherFiles _).mem_iff, List.mem_append] at member
  rcases member with document | fixed | ofPage
  · obtain ⟨page, _, rfl⟩ := List.mem_map.mp document
    exact descends_filePath page.path
  · exact descends_of_mem_fixedFiles fixed
  · obtain ⟨page, _, isFile⟩ := List.mem_flatMap.mp ofPage
    simp only [List.mem_cons, List.not_mem_nil, or_false] at isFile
    rcases isFile with rfl | rfl
    · exact descends_styleFile page
    · exact descends_scriptFile page

theorem descends_of_mem_names_filesOf {website : Website} {options : Options} {time : UtcTime}
    {path : String} (member : path ∈ (filesOf (compileAt website options time)).map Prod.fst) :
    Descends path := by
  rw [filesOf, filesAfter, Association.mem_names_ofBindings, List.map_map] at member
  obtain ⟨file, isWritten, rfl⟩ := List.mem_map.mp member
  exact descends_of_mem_writtenFiles isWritten

end StaticSite.Site

namespace StaticSite.Storage

open StaticSite.Page StaticSite.Site

/-! ## The files that requests mean -/

/-- Whether the last segment of a path has a dot, as names of files have. -/
def EndsInDottedName (path : String) : Prop :=
  ∃ name, (Text.splitAt '/' path).getLast? = some name ∧ '.' ∈ name.toList

theorem endsInDottedName_filePath (path : String) : EndsInDottedName (filePath path) := by
  refine ⟨documentName, ?_, by decide⟩
  rw [splitAt_filePath, List.getLast?_concat]

/-- Whatever path is asked for, the file that it means has a path of named segments, the last of
which is the name of a file. -/
theorem descends_requestedFile (path : String) :
    Descends (requestedFile path) ∧ EndsInDottedName (requestedFile path) := by
  cases fileName : endsInFileName (namedSegments path) with
  | false =>
      rw [requestedFile_of_not_endsInFileName fileName]
      exact ⟨descends_filePath path, endsInDottedName_filePath path⟩
  | true =>
      have someSegments := namedSegments_ne_nil_of_endsInFileName fileName
      rw [requestedFile_of_endsInFileName fileName]
      refine ⟨descends_intercalate_namedSegments someSegments, ?_⟩
      rw [EndsInDottedName, splitAt_intercalate_namedSegments someSegments]
      unfold endsInFileName at fileName
      split at fileName
      · rename_i last isLast
        exact ⟨last, isLast, List.contains_iff_mem.mp fileName⟩
      · cases fileName

/-! ## Keys that cannot leave their site -/

/-- Whatever the slugs and the ids of the pages of a website are, the path of every file of its site
consists of segments that are neither empty nor dot segments. Whatever path of whatever site is
asked for, the key that is looked up is the id of the site and a slash before such a path, whose last
segment has a dot. -/
theorem keys_descend {website : Website} {options : Options} {time : ZonedTime}
    {site : CompiledSite} (compiled : Site.compile website options time = .ok site) :
    (∀ path ∈ (filesOf site).map Prod.fst, Descends path) ∧
      ∀ websiteId path : String, ∃ relative, requestKey websiteId path = websiteId ++ "/" ++ relative ∧
        Descends relative ∧ EndsInDottedName relative := by
  obtain ⟨utc, rfl⟩ := eq_compileAt_of_compile compiled
  exact ⟨fun path member => descends_of_mem_names_filesOf member,
    fun websiteId path => ⟨requestedFile path, rfl, descends_requestedFile path⟩⟩

/-- A website of pages whose slugs and ids are made to lead out of its site. -/
def climbingWebsite : Website :=
  websiteOfSlugs [("..", "../../etc/"), ("", "a//./b\\.."), ("é/..", " /.. ")]

/-- The documents of such a site stand below its root, and a path that climbs out of a site is looked
up in it. -/
theorem keys_descend_climbingWebsite :
    ∃ site, Site.compile climbingWebsite {} someNoon = .ok site ∧
      (∀ path ∈ (filesOf site).map Prod.fst, Descends path) ∧
      pageFiles site = ["etc/index.html", "a/b\\../index.html", "index.html"] ∧
      ∃ relative, requestKey "w" "/../w2//./secret.txt" = "w" ++ "/" ++ relative ∧
        relative = "w2/secret.txt" ∧ Descends relative := by
  have descend := keys_descend (compile_someNoon climbingWebsite {})
  obtain ⟨relative, isKey, descends, _⟩ := descend.2 "w" "/../w2//./secret.txt"
  refine ⟨_, compile_someNoon climbingWebsite {}, descend.1, by decide +kernel, relative, isKey, ?_,
    descends⟩
  have isPlace : requestKey "w" "/../w2//./secret.txt" = fileKey "w" "w2/secret.txt" := by decide
  exact fileKey_inj (isKey.symm.trans isPlace)

end StaticSite.Storage
