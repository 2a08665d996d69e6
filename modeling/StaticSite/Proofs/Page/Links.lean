import StaticSite.Proofs.Emission.Link
import StaticSite.Proofs.Page.Hint
import StaticSite.Proofs.Page.StartTags

/-!
Contract: the links of a document.

Owns:
- the links that a document has around its components: files, hints and preview images;
- the law that every link of a document of built-in components is safe.

Does not own: the links of a component (see `StaticSite.Proofs.Emission.Link`).
-/

namespace StaticSite.Page

open StaticSite.Component StaticSite.Emission StaticSite.Markup StaticSite.Url

variable (page : Page) (website : Website) (options : Options)

/-! ## Attributes and elements -/

def AllLinkSafely (openings : List Opening) : Prop :=
  ∀ opening ∈ openings, opening.read.LinksSafely

theorem allLinkSafely_append {openings others : List Opening} (safe : AllLinkSafely openings)
    (safeLater : AllLinkSafely others) : AllLinkSafely (openings ++ others) :=
  List.forall_mem_append.mpr ⟨safe, safeLater⟩

theorem allLinkSafely_openingsOf {trees : List Html}
    (safe : ∀ tree ∈ trees, AllLinkSafely tree.openings) : AllLinkSafely (Html.openingsOf trees) := by
  intro opening member
  obtain ⟨tree, isTree, inside⟩ := exists_of_mem_openingsOf member
  exact safe tree isTree opening inside

/-- A literal address that begins safely, in an attribute for addresses or in another one. -/
theorem linksSafely_fixed {name literal : String} (notStyle : foldedName name.toList ≠ "style")
    (noEntity : '&' ∉ literal.toList) (begins : beginsSafely literal.toList = true) :
    (Attribute.fixed name literal).LinksSafely :=
  Attribute.linksSafely_of_isSafe notStyle (valueOf?_literal noEntity)
    (isSafe_of_beginsSafely _ begins (List.append_nil _).symm)

theorem linksSafely_holding {name address : String} (notStyle : foldedName name.toList ≠ "style")
    (safe : IsSafe address) : (Attribute.holding name address).LinksSafely :=
  Attribute.linksSafely_of_isSafe notStyle (valueOf?_anywhere address) safe

theorem isSafe_of_slash {address : String} {rest : List Char}
    (begins : address.toList = '/' :: rest) : IsSafe address :=
  isSafe_of_beginsSafely ['/'] (by decide) begins

def isNoLink : Attribute → Bool
  | .bare _ => true
  | .valued name _ => !("style" :: addressAttributes).contains (foldedName name.toList)

theorem linksSafely_of_isNoLink {written : Attribute} (noLink : isNoLink written = true) :
    written.LinksSafely := by
  cases written with
  | bare name => trivial
  | valued name pieces =>
      refine Attribute.linksSafely_of_name (fun member => ?_) pieces
      rw [isNoLink, List.contains_iff_mem.mpr member] at noLink
      cases noLink

/-- A start tag without metadata and without links. -/
theorem linksSafely_of_all_isNoLink {tag : String} (notMeta : foldedName tag.toList ≠ "meta")
    {attributes : List Attribute} (noLinks : attributes.all isNoLink = true) :
    (Opening.read ⟨tag, attributes⟩).LinksSafely :=
  linksSafely_of_not_meta notMeta fun written member =>
    linksSafely_of_isNoLink (List.all_eq_true.mp noLinks written member)

/-- A start tag without metadata and with one link, which is safe. -/
theorem linksSafely_of_one {tag : String} (notMeta : foldedName tag.toList ≠ "meta")
    (before : List Attribute) {after : List Attribute} {link : Attribute}
    (noLinks : (before ++ after).all isNoLink = true) (safe : link.LinksSafely) :
    (Opening.read ⟨tag, before ++ link :: after⟩).LinksSafely := by
  refine linksSafely_of_not_meta notMeta fun written member => ?_
  have others : written ∈ before ++ after → written.LinksSafely := fun isOther =>
    linksSafely_of_isNoLink (List.all_eq_true.mp noLinks written isOther)
  rcases List.mem_append.mp member with isBefore | later
  · exact others (List.mem_append_left after isBefore)
  · rcases List.mem_cons.mp later with rfl | isAfter
    · exact safe
    · exact others (List.mem_append_right before isAfter)

/-! ## Preview images -/

theorem isSafe_of_ogImageOf {stored : Option Json} {image : String}
    (named : ogImageOf stored = some image) : IsSafe image := by
  unfold ogImageOf at named
  split at named
  · split at named
    · cases named
    · rw [← Option.some.inj named]
      exact isSafe_safe _
  · cases named

theorem isSafe_of_readContent {stored : Option String} {content : Content} {image : String}
    (isContent : readContent stored = .ok content) (named : content.ogImage = some image) :
    IsSafe image := by
  cases readContent_eq_ok_iff.mp isContent with
  | nothing isNothing => cases named
  | object isRead fits listed => exact isSafe_of_ogImageOf named

/-- A compiled page lists safe links as hints, and its preview image is a safe link. -/
theorem isSafe_compile :
    (∀ link ∈ (compile page website options).performance.preloads, IsSafe link) ∧
      (∀ link ∈ (compile page website options).performance.deferrals, IsSafe link) ∧
      ∀ image, (compile page website options).seo.ogImage = some image → IsSafe image := by
  unfold compile
  split
  · rename_i content isContent
    exact ⟨isSafe_of_mem_collectHints, isSafe_of_mem_collectHints,
      fun image named => isSafe_of_readContent isContent named⟩
  · exact ⟨isSafe_of_mem_collectHints, isSafe_of_mem_collectHints, nofun⟩

/-! ## The head -/

def previewNames : List String :=
  ["og:image", "twitter:image"]

/-- Metadata link safely unless they are a preview image whose content is no safe address. -/
theorem linksSafely_metadatum {kind name : String} {pieces : List Piece}
    (isKind : kind ∈ ["name", "property", "http-equiv"]) (noEntity : '&' ∉ name.toList)
    (safe : name ∈ previewNames → ∃ address, valueOf? pieces = some address ∧ IsSafe address) :
    AllLinkSafely (Html.void "meta" [.fixed kind name, .valued "content" pieces]).openings := by
  have kinds : ∀ kind ∈ ["name", "property", "http-equiv"],
      foldedName kind.toList ∉ "style" :: addressAttributes ∧ foldedName kind.toList ≠ "content" := by
    decide
  obtain ⟨noLink, notContent⟩ := kinds kind isKind
  have names : ∀ mark ∈ previewMarks, mark.2 ∈ previewNames := by decide
  exact List.forall_mem_singleton.mpr
    (linksSafely_meta noLink noEntity (fun isPreview => safe (names _ isPreview)) notContent)

/-- The link to the canonical address of a page is left out of its links. -/
theorem linksSafely_canonical (address : String) :
    (Opening.read ⟨"link", [.fixed "rel" "canonical", .holding "href" address]⟩).LinksSafely := by
  have isRead : (Opening.read ⟨"link", [.fixed "rel" "canonical", .holding "href" address]⟩) =
      ⟨"link", [("rel", some "canonical"), ("href", some address)]⟩ := by
    have tagName : foldedName "link".toList = "link" := by decide
    have relName : foldedName "rel".toList = "rel" := by decide
    have hrefName : foldedName "href".toList = "href" := by decide
    rw [Opening.read, List.flatMap_cons, List.flatMap_cons, List.flatMap_nil,
      read_fixed "rel" (by decide), read_holding, tagName, relName, hrefName]
    rfl
  have isCanonical : StartTag.isCanonical
      ⟨"link", [("rel", some "canonical"), ("href", some address)]⟩ = true := by
    simp [StartTag.isCanonical, StartTag.has]
  have noLinks : StartTag.links ⟨"link", [("rel", some "canonical"), ("href", some address)]⟩ = [] := by
    simp [StartTag.links, StartTag.linksOf, addressAttributes, isCanonical]
  intro link member
  rw [isRead, noLinks] at member
  cases member

theorem linksSafely_charset :
    (Opening.read ⟨"meta", [.fixed "charset" "UTF-8"]⟩).LinksSafely := by
  refine linksSafely_of_attributes
    (List.forall_mem_singleton.mpr (Attribute.linksSafely_of_name (by decide) _)) ?_
  intro _ name pieces member isContent
  obtain ⟨rfl, _⟩ := Attribute.valued.inj (List.mem_singleton.mp member)
  exact absurd isContent (by decide)

theorem linksSafely_previewImage {element : String → Html} {seo : Seo}
    (safeImage : ∀ image, seo.ogImage = some image → IsSafe image)
    (safely : ∀ image, IsSafe image → AllLinkSafely (element image).openings) :
    ∀ tree ∈ previewImage element seo, AllLinkSafely tree.openings := by
  intro tree member
  rw [previewImage, Option.mem_toList, Option.map_eq_some_iff] at member
  obtain ⟨image, isImage, rfl⟩ := member
  exact safely image (safeImage image (Option.filter_eq_some_iff.mp isImage).1)

/-- The metadata of a page link safely if its preview image is a safe link. -/
theorem linksSafely_metadata {seo : Seo}
    (safeImage : ∀ image, seo.ogImage = some image → IsSafe image) :
    AllLinkSafely (Html.openingsOf (metadata website options seo)) := by
  have plain : ∀ kind name pieces, kind ∈ ["name", "property", "http-equiv"] → '&' ∉ name.toList →
      name ∉ previewNames →
        AllLinkSafely (Html.void "meta" [.fixed kind name, .valued "content" pieces]).openings :=
    fun _ _ _ isKind noEntity notPreview =>
      linksSafely_metadatum isKind noEntity fun isPreview => absurd isPreview notPreview
  have charset : AllLinkSafely (Html.void "meta" [.fixed "charset" "UTF-8"]).openings :=
    List.forall_mem_singleton.mpr linksSafely_charset
  have title : AllLinkSafely (Html.element "title" [] [.text [.anywhere seo.title]]).openings :=
    List.forall_mem_singleton.mpr (linksSafely_of_all_isNoLink (by decide) rfl)
  have style : AllLinkSafely (Html.element "style" [] [.verbatim criticalStyle]).openings :=
    List.forall_mem_singleton.mpr (linksSafely_of_all_isNoLink (by decide) rfl)
  have canonical : AllLinkSafely
      (Html.void "link" [.fixed "rel" "canonical", .holding "href" seo.canonical]).openings :=
    List.forall_mem_singleton.mpr (linksSafely_canonical seo.canonical)
  have keywords : ∀ tree ∈ (if seo.keywords.isEmpty then []
      else [metaNamed "keywords" (", ".intercalate seo.keywords)]), AllLinkSafely tree.openings := by
    split
    · exact nofun
    · exact List.forall_mem_singleton.mpr (plain "name" _ _ (by decide) (by decide) (by decide))
  have propertyImage : ∀ tree ∈ previewImage (metaProperty "og:image") seo,
      AllLinkSafely tree.openings := linksSafely_previewImage safeImage fun image safe =>
    linksSafely_metadatum (by decide) (by decide) fun _ => ⟨image, valueOf?_anywhere image, safe⟩
  have namedImage : ∀ tree ∈ previewImage (metaNamed "twitter:image") seo,
      AllLinkSafely tree.openings := linksSafely_previewImage safeImage fun image safe =>
    linksSafely_metadatum (by decide) (by decide) fun _ => ⟨image, valueOf?_anywhere image, safe⟩
  apply allLinkSafely_openingsOf
  unfold metadata
  simp only [List.forall_mem_append, List.forall_mem_cons, charset, title, style, canonical, true_and]
  refine ⟨⟨⟨⟨⟨⟨⟨?_, ?_, ?_, nofun⟩, keywords⟩, ?_, ?_, ?_, ?_, nofun⟩, propertyImage⟩,
    ?_, ?_, ?_, nofun⟩, namedImage⟩, ?_, ?_, ?_, ?_, nofun⟩
  all_goals exact plain _ _ _ (by decide) (by decide) (by decide)

theorem linksSafely_preloadLink {address : String} (safe : IsSafe address) :
    AllLinkSafely (preloadLink address).openings := by
  refine List.forall_mem_singleton.mpr
    (linksSafely_of_one (by decide) [.fixed "rel" "preload"] ?_ (linksSafely_holding (by decide) safe))
  split
  · decide
  · decide

theorem isSafe_styleAddress (asset : String) : IsSafe (styleAddress asset) :=
  isSafe_of_slash (by rw [styleAddress, String.toList_append, String.toList_append]; rfl)

theorem isSafe_scriptAddress (asset : String) : IsSafe (scriptAddress asset) :=
  isSafe_of_slash (by rw [scriptAddress, String.toList_append, String.toList_append]; rfl)

theorem linksSafely_deferredStyle {address : String} (safe : IsSafe address) :
    AllLinkSafely (deferredStyle address).openings :=
  List.forall_mem_singleton.mpr (linksSafely_of_one (by decide) [.fixed "rel" "stylesheet"] (by decide)
    (linksSafely_holding (by decide) safe))

theorem linksSafely_plainStyles {first second : String} (safe : IsSafe first)
    (safeSecond : IsSafe second) :
    AllLinkSafely (Html.sheet "noscript" [] [plainStyle first, plainStyle second]).openings := by
  have one : ∀ address, IsSafe address →
      (Opening.read ⟨"link", [.fixed "rel" "stylesheet", .holding "href" address]⟩).LinksSafely :=
    fun address safeAddress => linksSafely_of_one (by decide) [.fixed "rel" "stylesheet"] (by decide)
      (linksSafely_holding (by decide) safeAddress)
  exact List.forall_mem_cons.mpr ⟨linksSafely_of_all_isNoLink (by decide) rfl,
    List.forall_mem_cons.mpr ⟨one first safe, List.forall_mem_singleton.mpr (one second safeSecond)⟩⟩

/-- The links of a head link safely if the files to load ahead are safe links. -/
theorem linksSafely_headLinks (asset : String) {preloads : List String}
    (safe : ∀ link ∈ preloads, IsSafe link) :
    AllLinkSafely (Html.openingsOf (headLinks asset preloads)) := by
  have globalStyle : IsSafe "/css/global.css" := isSafe_of_slash rfl
  have fixedLink : ∀ before after literal, (before ++ after).all isNoLink = true →
      '&' ∉ literal.toList → beginsSafely literal.toList = true →
      AllLinkSafely (Html.void "link" (before ++ .fixed "href" literal :: after)).openings :=
    fun before _ _ noLinks noEntity begins => List.forall_mem_singleton.mpr
      (linksSafely_of_one (by decide) before noLinks (linksSafely_fixed (by decide) noEntity begins))
  have preloaded : ∀ tree ∈ preloads.map preloadLink, AllLinkSafely tree.openings :=
    List.forall_mem_map.mpr fun link member => linksSafely_preloadLink (safe link member)
  apply allLinkSafely_openingsOf
  unfold headLinks
  simp only [List.forall_mem_append, List.forall_mem_cons]
  refine ⟨⟨⟨?_, ?_, nofun⟩, preloaded⟩, linksSafely_deferredStyle globalStyle,
    linksSafely_deferredStyle (isSafe_styleAddress asset),
    linksSafely_plainStyles globalStyle (isSafe_styleAddress asset), ?_, ?_, ?_, nofun⟩
  · exact fixedLink [.fixed "rel" "preload"] [.fixed "as" "style"] _ (by decide) (by decide) (by decide)
  · exact fixedLink [.fixed "rel" "preload"] [.fixed "as" "script"] _ (by decide) (by decide)
      (by decide)
  · exact fixedLink [.fixed "rel" "icon", .fixed "type" "image/x-icon"] [] _ (by decide) (by decide)
      (by decide)
  · exact fixedLink [.fixed "rel" "apple-touch-icon"] [] _ (by decide) (by decide) (by decide)
  · exact fixedLink [.fixed "rel" "manifest"] [] _ (by decide) (by decide) (by decide)

/-! ## The document -/

/-- Before its components a document links safely. -/
theorem linksSafely_openingTags {seo : Seo} {preloads : List String}
    (safeImage : ∀ image, seo.ogImage = some image → IsSafe image)
    (safe : ∀ link ∈ preloads, IsSafe link) :
    AllLinkSafely (openingTags page website options seo preloads) := by
  have head := allLinkSafely_append (linksSafely_metadata website options safeImage)
    (linksSafely_headLinks page.asset safe)
  rw [openingTags, Html.openingsOf_append]
  refine allLinkSafely_append (allLinkSafely_append ?_ head) ?_
  · exact List.forall_mem_cons.mpr ⟨linksSafely_of_all_isNoLink (by decide) rfl,
      List.forall_mem_singleton.mpr (linksSafely_of_all_isNoLink (by decide) rfl)⟩
  · have skipLink : (Opening.read ⟨"a", [.fixed "href" "#main-content",
        .fixed "class" "skip-link"]⟩).LinksSafely :=
      linksSafely_of_one (by decide) [] (by decide)
        (linksSafely_fixed (by decide) (by decide) (by decide))
    refine List.forall_mem_cons.mpr ⟨linksSafely_of_all_isNoLink (by decide) rfl,
      List.forall_mem_cons.mpr ⟨skipLink, List.forall_mem_cons.mpr
        ⟨linksSafely_of_all_isNoLink (by decide) rfl,
          List.forall_mem_singleton.mpr (linksSafely_of_all_isNoLink (by decide) rfl)⟩⟩⟩

/-- Behind its components a document links safely. -/
theorem linksSafely_closingTags {deferrals : List String} (islands : List Island)
    (safe : ∀ link ∈ deferrals, IsSafe link) :
    AllLinkSafely (closingTags page website options deferrals islands) := by
  have script : ∀ address, IsSafe address → AllLinkSafely (deferredScript address).openings :=
    fun address safeAddress => List.forall_mem_singleton.mpr (linksSafely_of_one (by decide) []
      (by decide) (linksSafely_holding (by decide) safeAddress))
  have prefetched : ∀ tree ∈ deferrals.map (fun address =>
      Html.void "link" [.fixed "rel" "prefetch", .holding "href" address]),
      AllLinkSafely tree.openings := List.forall_mem_map.mpr fun link member =>
    List.forall_mem_singleton.mpr (linksSafely_of_one (by decide) [.fixed "rel" "prefetch"] (by decide)
      (linksSafely_holding (by decide) (safe link member)))
  have inline : (Opening.read ⟨"script", []⟩).LinksSafely :=
    linksSafely_of_all_isNoLink (by decide) rfl
  rw [closingTags]
  apply allLinkSafely_openingsOf
  unfold trailingElements
  simp only [List.forall_mem_append, List.forall_mem_cons]
  refine ⟨⟨?_, ?_, script _ (isSafe_of_slash rfl), script _ (isSafe_scriptAddress page.asset),
    nofun⟩, prefetched⟩
  · rw [Html.openings, Html.openingsOf_of_isCode isCode_workerRegistration]
    exact List.forall_mem_singleton.mpr inline
  · exact List.forall_mem_singleton.mpr inline

/-- Every link of a document of built-in components is read and has no scheme or one that may stand
in a page. -/
theorem document_links_safe (builtIn : options.emitter = Emitter.builtIn) :
    ∀ tag ∈ startTags (compile page website options).html, ∀ link ∈ tag.links,
      ∃ address, link = some address ∧ IsSafe address := by
  obtain ⟨safePreloads, safeDeferrals, safeImage⟩ := isSafe_compile page website options
  have components : AllLinkSafely (componentOpenings page options) := by
    intro opening member
    obtain ⟨node, _, given⟩ := exists_givenBy_of_mem_componentOpenings page options builtIn member
    exact linksSafely_of_givenBy given
  have all := allLinkSafely_append (allLinkSafely_append
    (linksSafely_openingTags page website options safeImage safePreloads) components)
    (linksSafely_closingTags page website options
      (compile page website options).islands safeDeferrals)
  rw [startTags_html page website options builtIn]
  exact List.forall_mem_map.mpr all

/-- A page whose button and whose preview image name links that run scripts. -/
def scriptingPage : Page :=
  { id := "p"
    name := none
    slug := none
    content := some ("\x7b\"components\": [\x7b\"type\": \"button\", " ++
      "\"props\": \x7b\"link\": \" JavaScript:alert(1)\"\x7d\x7d], " ++
      "\"ogImage\": \"data:text/html,x\"\x7d")
    metaTitle := none
    metaDescription := none
    metaKeywords := none }

/-- A website with the page of such links. -/
def scriptingWebsite : Website :=
  { id := "w"
    name := none
    description := none
    language := none
    theme := none
    pages := [scriptingPage] }

/-- Links that run scripts get into no document; they are not safe, whatever the case of their
letters and whatever a browser ignores in them. -/
theorem document_links_safe_scripting :
    (∀ tag ∈ startTags (compile scriptingPage scriptingWebsite {}).html, ∀ link ∈ tag.links,
      ∃ address, link = some address ∧ IsSafe address) ∧
      ¬ IsSafe " Java\tScript:alert(1)" := by
  refine ⟨document_links_safe scriptingPage scriptingWebsite {} rfl, fun safe => ?_⟩
  have has : HasScheme (browserForm " Java\tScript:alert(1)".toList) "JavaScript".toList :=
    ⟨⟨'J', by decide, by decide⟩, List.all_eq_true.mp (by decide +kernel), "alert(1)".toList,
      by decide +kernel⟩
  exact absurd (safe _ has) (by decide)

end StaticSite.Page
