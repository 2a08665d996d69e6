import StaticSite.Proofs.Page.StartTags

/-!
Contract: the files that a document asks for.

Owns:
- the style sheets, the manifest and the scripts that the start tags of a text ask for;
- the law that a document asks for the shared files and for those of the page, and that built-in
  components ask for no others.

Does not own: whether there are such files (see `StaticSite.Proofs.Site.Publication`).
-/

namespace StaticSite.Markup

/-! ## The files that start tags ask for -/

/-- The relations of links to files that a document needs. -/
def fileRelations : List String := ["stylesheet", "manifest"]

/-- The file that a start tag asks for, with what it is asked for as. -/
def StartTag.request? (tag : StartTag) : Option (String × String) :=
  if tag.name = "script" then
    (tag.value? "src").map fun address => ("script", address)
  else if tag.name = "link" then
    match tag.value? "rel" with
    | some relation =>
        if relation ∈ fileRelations then
          (tag.value? "href").map fun address => (relation, address)
        else
          none
    | none => none
  else
    none

/-- The files that the start tags of a text ask for, in order. -/
def requestedFiles (text : String) : List (String × String) :=
  (startTags text).filterMap StartTag.request?

/-- The files that some start tags of a tree ask for. -/
def requestsOf (openings : List Opening) : List (String × String) :=
  openings.filterMap fun opening => opening.read.request?

theorem requestsOf_append (openings others : List Opening) :
    requestsOf (openings ++ others) = requestsOf openings ++ requestsOf others :=
  List.filterMap_append

theorem Holds.requestedFiles_eq {text : String} {openings : List Opening}
    (holds : Holds text openings) : requestedFiles text = requestsOf openings := by
  rw [requestedFiles, holds.startTags_eq, List.filterMap_map]
  rfl

theorem request?_eq_none {tag : String} (notScript : foldedName tag.toList ≠ "script")
    (notLink : foldedName tag.toList ≠ "link") (attributes : List Attribute) :
    (Opening.read ⟨tag, attributes⟩).request? = none := by
  rw [StartTag.request?, Opening.read, if_neg notScript, if_neg notLink]

/-- A link asks for a file if its relation is one to a file. -/
theorem request?_link {relation : String} (noEntity : '&' ∉ relation.toList)
    (others : List Attribute) :
    (Opening.read ⟨"link", .fixed "rel" relation :: others⟩).request? =
      if relation ∈ fileRelations then
        ((Opening.read ⟨"link", others⟩).value? "href").map fun address => (relation, address)
      else
        none := by
  have isLink : (Opening.read ⟨"link", .fixed "rel" relation :: others⟩).name = "link" := by
    show foldedName "link".toList = "link"
    decide
  have relName : foldedName "rel".toList = "rel" := by decide
  rw [StartTag.request?, isLink, if_neg (by decide), if_pos rfl, value?_fixed _ _ _ _ noEntity,
    value?_fixed _ _ _ _ noEntity, relName, if_pos rfl, if_neg (by decide)]

theorem request?_link_eq_none {relation : String} (noEntity : '&' ∉ relation.toList)
    (notFile : relation ∉ fileRelations) (others : List Attribute) :
    (Opening.read ⟨"link", .fixed "rel" relation :: others⟩).request? = none := by
  rw [request?_link noEntity, if_neg notFile]

theorem href_holding (address : String) (others : List Attribute) :
    (Opening.read ⟨"link", .holding "href" address :: others⟩).value? "href" = some address := by
  have hrefName : foldedName "href".toList = "href" := by decide
  rw [value?_holding, hrefName, if_pos rfl]

theorem request?_stylesheet (address : String) (others : List Attribute) :
    (Opening.read ⟨"link", .fixed "rel" "stylesheet" :: .holding "href" address ::
      others⟩).request? = some ("stylesheet", address) := by
  rw [request?_link (by decide), if_pos (by decide), href_holding]
  rfl

theorem request?_script (address : String) (others : List Attribute) :
    (Opening.read ⟨"script", .holding "src" address :: others⟩).request? =
      some ("script", address) := by
  have isScript : (Opening.read ⟨"script", .holding "src" address :: others⟩).name = "script" := by
    show foldedName "script".toList = "script"
    decide
  have srcName : foldedName "src".toList = "src" := by decide
  rw [StartTag.request?, isScript, if_pos rfl, value?_holding, srcName, if_pos rfl]
  rfl

theorem requestsOf_openingsOf_eq_nil {trees : List Html}
    (nothing : ∀ tree ∈ trees, requestsOf tree.openings = []) :
    requestsOf (Html.openingsOf trees) = [] := by
  induction trees with
  | nil => rfl
  | cons tree others inductionHypothesis =>
      obtain ⟨first, later⟩ := List.forall_mem_cons.mp nothing
      rw [Html.openingsOf, requestsOf_append, first, inductionHypothesis later]
      rfl

end StaticSite.Markup

namespace StaticSite.Page

open StaticSite.Component StaticSite.Emission StaticSite.Markup

variable (page : Page) (website : Website) (options : Options)

/-! ## What the start tags ask for -/

/-- The files that a document asks for before its components. -/
def openingRequests (asset : String) : List (String × String) :=
  [ ("stylesheet", "/css/global.css"), ("stylesheet", "/css/page-" ++ asset ++ ".css"),
    ("stylesheet", "/css/global.css"), ("stylesheet", "/css/page-" ++ asset ++ ".css"),
    ("manifest", "/manifest.json") ]

/-- The files that a document asks for behind its components. -/
def closingRequests (asset : String) : List (String × String) :=
  [("script", "/js/global.js"), ("script", "/js/page-" ++ asset ++ ".js")]

/-- Elements that are neither scripts nor links ask for nothing. -/
theorem requestsOf_void_meta (attributes : List Attribute) :
    requestsOf (Html.void "meta" attributes).openings = [] := by
  rw [Html.openings, requestsOf, List.filterMap_cons_none]
  · rfl
  · exact request?_eq_none (by decide) (by decide) attributes

theorem requestsOf_of_mem_previewImage {element : String → Html} {seo : Seo}
    (nothing : ∀ image, requestsOf (element image).openings = []) {tree : Html}
    (member : tree ∈ previewImage element seo) : requestsOf tree.openings = [] := by
  obtain ⟨image, _, rfl⟩ := by simpa [previewImage] using member
  exact nothing image

theorem requestsOf_metadata (seo : Seo) :
    requestsOf (Html.openingsOf (metadata website options seo)) = [] := by
  have named : ∀ name value, requestsOf (metaNamed name value).openings = [] :=
    fun _ _ => requestsOf_void_meta _
  have property : ∀ name value, requestsOf (metaProperty name value).openings = [] :=
    fun _ _ => requestsOf_void_meta _
  have fixed : ∀ kind name content, requestsOf (metaFixed kind name content).openings = [] :=
    fun _ _ _ => requestsOf_void_meta _
  have title : requestsOf (Html.element "title" [] [.text [.anywhere seo.title]]).openings = [] := by
    simp [Html.openings, Html.openingsOf, requestsOf,
      request?_eq_none (by decide : foldedName "title".toList ≠ "script") (by decide) []]
  have style : requestsOf (Html.element "style" [] [.verbatim criticalStyle]).openings = [] := by
    simp [Html.openings, Html.openingsOf, requestsOf,
      request?_eq_none (by decide : foldedName "style".toList ≠ "script") (by decide) []]
  have canonical : requestsOf
      (Html.void "link" [.fixed "rel" "canonical", .holding "href" seo.canonical]).openings = [] := by
    simp [Html.openings, requestsOf,
      request?_link_eq_none (by decide : '&' ∉ "canonical".toList) (by decide)]
  have previewProperty : ∀ tree ∈ previewImage (metaProperty "og:image") seo,
      requestsOf tree.openings = [] :=
    fun _ => requestsOf_of_mem_previewImage (property "og:image")
  have previewNamed : ∀ tree ∈ previewImage (metaNamed "twitter:image") seo,
      requestsOf tree.openings = [] :=
    fun _ => requestsOf_of_mem_previewImage (named "twitter:image")
  have keywords : ∀ tree ∈ (if seo.keywords.isEmpty then []
      else [metaNamed "keywords" (", ".intercalate seo.keywords)]),
      requestsOf tree.openings = [] := by
    split
    · exact nofun
    · exact List.forall_mem_singleton.mpr (named _ _)
  apply requestsOf_openingsOf_eq_nil
  unfold metadata
  simp only [List.forall_mem_append, List.forall_mem_cons, named, property, fixed,
    title, style, canonical, requestsOf_void_meta, true_and]
  exact ⟨⟨⟨⟨⟨⟨nofun, keywords⟩, nofun⟩, previewProperty⟩, nofun⟩, previewNamed⟩, nofun⟩

theorem requestsOf_preloadLink (address : String) :
    requestsOf (preloadLink address).openings = [] := by
  have nothing := request?_link_eq_none (by decide : '&' ∉ "preload".toList) (by decide)
  simp only [preloadLink, Html.openings, requestsOf, List.cons_append, List.filterMap_cons_none,
    nothing, List.filterMap_nil]

/-- The links of a head ask for the style sheets and for the manifest. -/
theorem requestsOf_headLinks (asset : String) (preloads : List String) :
    requestsOf (Html.openingsOf (headLinks asset preloads)) =
      openingRequests asset := by
  have preloaded : requestsOf (Html.openingsOf (preloads.map preloadLink)) = [] :=
    requestsOf_openingsOf_eq_nil (List.forall_mem_map.mpr fun address _ =>
      requestsOf_preloadLink address)
  have other : ∀ relation : String, '&' ∉ relation.toList → relation ∉ fileRelations →
      ∀ others, (Opening.read ⟨"link", .fixed "rel" relation :: others⟩).request? = none :=
    fun _ noEntity notFile => request?_link_eq_none noEntity notFile
  have manifest : (Opening.read ⟨"link", [.fixed "rel" "manifest",
      .fixed "href" "/manifest.json"]⟩).request? = some ("manifest", "/manifest.json") := by
    decide
  have noscript : (Opening.read ⟨"noscript", []⟩).request? = none :=
    request?_eq_none (by decide) (by decide) []
  rw [headLinks, Html.openingsOf_append, Html.openingsOf_append, requestsOf_append,
    requestsOf_append, preloaded, List.append_nil]
  simp only [Html.openingsOf, Html.openings, Html.sheet, deferredStyle, plainStyle, requestsOf,
    List.append_nil, List.cons_append, List.nil_append, List.filterMap_cons, List.filterMap_nil,
    request?_stylesheet, manifest, noscript, other "preload" (by decide) (by decide),
    other "icon" (by decide) (by decide), other "apple-touch-icon" (by decide) (by decide),
    styleAddress, openingRequests]

/-- Before its components a document asks for the style sheets and for the manifest. -/
theorem requestedFiles_documentOpening (seo : Seo) (preloads : List String) :
    requestedFiles (documentOpening page website options seo preloads) =
      openingRequests page.asset := by
  have start : requestsOf
      [ ⟨"html", [.holding "lang" website.languageOrDefault, .fixed "dir" "ltr"]⟩,
        ⟨"head", []⟩ ] = [] := by
    simp only [requestsOf, List.filterMap_cons, List.filterMap_nil,
      request?_eq_none (by decide : foldedName "html".toList ≠ "script") (by decide),
      request?_eq_none (by decide : foldedName "head".toList ≠ "script") (by decide)]
  have body : requestsOf
      [ ⟨"body", []⟩,
        ⟨"a", [.fixed "href" "#main-content", .fixed "class" "skip-link"]⟩,
        ⟨"div", [.fixed "id" "app", .holding "data-page-id" page.id,
          .holding "data-page-slug" page.path]⟩,
        ⟨"main", [.fixed "id" "main-content", .fixed "role" "main"]⟩ ] = [] := by
    simp only [requestsOf, List.filterMap_cons, List.filterMap_nil,
      request?_eq_none (by decide : foldedName "body".toList ≠ "script") (by decide),
      request?_eq_none (by decide : foldedName "a".toList ≠ "script") (by decide),
      request?_eq_none (by decide : foldedName "div".toList ≠ "script") (by decide),
      request?_eq_none (by decide : foldedName "main".toList ≠ "script") (by decide)]
  rw [(holds_documentOpening page website options seo preloads).requestedFiles_eq, openingTags,
    requestsOf_append, requestsOf_append, start, body, Html.openingsOf_append, requestsOf_append,
    requestsOf_metadata, requestsOf_headLinks]
  rfl

/-- Behind its components a document asks for the scripts. -/
theorem requestedFiles_documentClosing (deferrals : List String) (islands : List Island) :
    requestedFiles (documentClosing page website options deferrals islands) =
      closingRequests page.asset := by
  have prefetched : requestsOf (Html.openingsOf (deferrals.map fun address =>
      .void "link" [.fixed "rel" "prefetch", .holding "href" address])) = [] := by
    apply requestsOf_openingsOf_eq_nil
    refine List.forall_mem_map.mpr fun address _ => ?_
    simp only [Html.openings, requestsOf, List.filterMap_cons, List.filterMap_nil,
      request?_link_eq_none (by decide : '&' ∉ "prefetch".toList) (by decide)]
  have inline : (Opening.read ⟨"script", []⟩).request? = none := by decide
  have noTags : ∀ name value, (globalSetting name value).openings = [] := fun _ _ => rfl
  rw [(holds_documentClosing page website options deferrals islands).requestedFiles_eq,
    closingTags, trailingElements, Html.openingsOf_append, requestsOf_append, prefetched,
    List.append_nil]
  simp only [Html.openingsOf, Html.openings, Html.sheet, settings, deferredScript, requestsOf,
    Html.openingsOf_of_isCode isCode_workerRegistration, noTags, List.append_nil,
    List.cons_append, List.nil_append, List.filterMap_cons, List.filterMap_nil, request?_script,
    inline, scriptAddress, closingRequests]

/-! ## What components ask for -/

theorem asksForNothing_of_mem_catalogue :
    ∀ definition ∈ catalogue, ∀ template ∈ definition.markup.tags,
      isFoldedName template.tag = true ∧ template.tag ≠ "script" ∧ template.tag ≠ "link" := by
  decide +kernel

theorem request?_of_givenBy {node : Node} {opening : Opening} (given : GivenBy node opening) :
    opening.read.request? = none := by
  cases given with
  | frame _ => exact request?_eq_none (by decide) (by decide) _
  | filled member _ comes =>
      cases comes with
      | filled isTag _ =>
          obtain ⟨folded, notScript, notLink⟩ := asksForNothing_of_mem_catalogue _ member _ isTag
          rw [← foldedName_of_isFoldedName folded] at notScript notLink
          exact request?_eq_none notScript notLink _

theorem requestedFiles_componentText (builtIn : options.emitter = Emitter.builtIn) :
    requestedFiles (componentText page options) = [] := by
  rw [(holds_componentText page options builtIn).requestedFiles_eq, requestsOf,
    List.filterMap_eq_nil_iff]
  intro opening member
  obtain ⟨node, _, given⟩ := exists_givenBy_of_mem_componentOpenings page options builtIn member
  exact request?_of_givenBy given

/-- A document of built-in components asks for the files of its page and for the shared ones. -/
theorem requestedFiles_html (builtIn : options.emitter = Emitter.builtIn) :
    requestedFiles (compile page website options).html =
      openingRequests page.asset ++ closingRequests page.asset := by
  have opening := holds_documentOpening page website options
    (compile page website options).seo (compile page website options).performance.preloads
  have components := holds_componentText page options builtIn
  have closing := holds_documentClosing page website options
    (compile page website options).performance.deferrals (compile page website options).islands
  rw [html_eq_append, ((opening.append components).append closing).requestedFiles_eq,
    requestsOf_append, requestsOf_append, ← opening.requestedFiles_eq,
    ← components.requestedFiles_eq, ← closing.requestedFiles_eq, requestedFiles_documentOpening,
    requestedFiles_componentText page options builtIn, requestedFiles_documentClosing]
  rfl

/-! ## The service worker -/

theorem toList_infix_append (before text after : String) :
    text.toList <:+: (before ++ text ++ after).toList := by
  rw [String.toList_append, String.toList_append]
  exact List.infix_append _ _ _

theorem renderAt_infix_renderLines (level : Nat) {tree : Html} {trees : List Html}
    (member : tree ∈ trees) :
    (tree.renderAt level).toList <:+: (Html.renderLines level trees).toList := by
  induction trees with
  | nil => cases member
  | cons first others inductionHypothesis =>
      rw [Html.renderLines]
      rcases List.mem_cons.mp member with rfl | later
      · rw [String.append_assoc]
        exact toList_infix_append _ _ _
      · refine (inductionHypothesis later).trans ?_
        rw [String.toList_append]
        exact (List.suffix_append _ _).isInfix

def registrationLine : String :=
  "    navigator.serviceWorker.register('/sw.js').catch(function (error) \x7b"

theorem registration_infix_html :
    "navigator.serviceWorker.register('/sw.js')".toList <:+:
      (compile page website options).html.toList := by
  have isLine : registrationLine ∈ Script.codeLines workerRegistration := by decide +kernel
  have inLine : "navigator.serviceWorker.register('/sw.js')".toList <:+:
      registrationLine.toList := by decide +kernel
  have inCode := renderAt_infix_renderLines 2 (List.mem_map_of_mem (f := Html.verbatim) isLine)
  have inScript := toList_infix_append (startTag "script" [] ++ "\n") (Html.renderLines 2
    ((Script.codeLines workerRegistration).map .verbatim)) (indentation 0 ++ endTag "script")
  rw [← String.append_assoc] at inScript
  have isTrailing : .block 2 "script" [] ((Script.codeLines workerRegistration).map .verbatim) ∈
      trailingElements page website options (compile page website options).performance.deferrals
        (compile page website options).islands := List.mem_cons_self
  have inLines := renderAt_infix_renderLines 0 isTrailing
  have inClosing := toList_infix_append "</main>\n</div>\n" (Html.renderLines 0
    (trailingElements page website options (compile page website options).performance.deferrals
      (compile page website options).islands)) "</body>\n</html>\n"
  rw [html_eq_append, String.toList_append]
  exact (((inLine.trans inCode).trans inScript).trans (inLines.trans inClosing)).trans
    (List.suffix_append _ _).isInfix

end StaticSite.Page
