import StaticSite.Proofs.Emission.ElementId
import StaticSite.Proofs.Page.Handshake

/-!
Contract: the ids of the elements of a document.

Owns:
- the parts of a document that give no ids;
- the law that a document gives the ids of its two regions and those of its components, in their
  order, and no others.

Does not own: the ids inside the container of a component (see
`StaticSite.Proofs.Emission.ElementId`), and which ids are given twice (see
`StaticSite.Proofs.Page.DistinctIds`).
-/

namespace StaticSite.Page

open StaticSite.Component StaticSite.Emission StaticSite.Markup

/-! ## Parts of the document without ids -/

theorem identifies_map_nothing {Value : Type} (values : List Value) {treeOf : Value → Html}
    (nothing : ∀ value, Identifies [treeOf value] []) : Identifies (values.map treeOf) [] := by
  rw [List.map_eq_flatMap]
  exact identifies_flatMap_nothing values nothing

theorem isReadable_fixed {name literal : String} (isName : isAttributeName name = true)
    (unquoted : isUnquotedText literal = true) :
    (Attribute.fixed name literal).isReadable = true := by
  simp [Attribute.fixed, Attribute.isReadable, Piece.isUnquoted, isName, unquoted]

theorem isReadable_holding {name : String} (isName : isAttributeName name = true)
    (value : String) : (Attribute.holding name value).isReadable = true := by
  simp [Attribute.holding, Attribute.isReadable, Piece.isUnquoted, isName]

theorem readable_meta {kind name : String} (isName : isAttributeName kind = true)
    (unquoted : isUnquotedText name = true) (value : String) :
    (Html.void "meta" [.fixed kind name, .holding "content" value]).Readable := by
  refine ⟨⟨by decide, ?_⟩, by decide⟩
  rw [List.all_cons, List.all_cons, isReadable_fixed isName unquoted,
    isReadable_holding (by decide)]
  rfl

theorem isCode_of_isPlainText {content : String} (plain : isPlainText content = true) :
    (Html.verbatim content).IsCode :=
  closesNothing_of_not_mem (less_not_mem_of_isPlainText plain)

/-! ## The head -/

variable (page : Page) (website : Website) (options : Options) (seo : Seo)

theorem identifies_previewImage {element : String → Html}
    (nothing : ∀ image, Identifies [element image] []) :
    Identifies (previewImage element seo) [] := by
  unfold previewImage
  cases Text.nonempty? seo.ogImage with
  | none => exact identifies_nil
  | some image => exact nothing image

theorem identifies_keywords (keywords : List String) :
    Identifies (if keywords.isEmpty then []
      else [metaNamed "keywords" (", ".intercalate keywords)]) [] := by
  split
  · exact identifies_nil
  · exact ⟨⟨readable_meta (by decide) (by decide) _, trivial⟩, rfl⟩

theorem readable_criticalStyle :
    (Html.element "style" [] [.verbatim criticalStyle]).Readable := by
  refine ⟨⟨by decide, rfl⟩, Or.inl ⟨by decide, ?_⟩⟩
  intro child member
  rw [List.mem_singleton.mp member]
  exact isCode_of_isPlainText isPlainText_criticalStyle

theorem identifies_metadata : Identifies (metadata website options seo) [] := by
  have named : ∀ name value, isUnquotedText name = true → (metaNamed name value).Readable :=
    fun _ value unquoted => readable_meta (by decide) unquoted value
  have preview : ∀ name value, isUnquotedText name = true → (metaProperty name value).Readable :=
    fun _ value unquoted => readable_meta (by decide) unquoted value
  unfold metadata
  refine .append_nothing (.append_nothing (.append_nothing (.append_nothing (.append_nothing
    (.append_nothing ?_ ?_) ?_) ?_) ?_) ?_) ?_
  · refine ⟨⟨⟨⟨by decide, by decide⟩, by decide⟩, ⟨⟨by decide, by decide⟩, by decide⟩,
      ⟨⟨by decide, by decide⟩, by decide⟩, ⟨⟨by decide, rfl⟩, Or.inr ⟨by decide, rfl, trivial⟩⟩,
      named _ _ (by decide), trivial⟩, rfl⟩
  · exact identifies_keywords seo.keywords
  · exact ⟨⟨preview _ _ (by decide), preview _ _ (by decide), ⟨⟨by decide, by decide⟩, by decide⟩,
      preview _ _ (by decide), trivial⟩, rfl⟩
  · exact identifies_previewImage seo fun image => ⟨⟨preview _ image (by decide), trivial⟩, rfl⟩
  · exact ⟨⟨⟨⟨by decide, by decide⟩, by decide⟩, named _ _ (by decide), named _ _ (by decide),
      trivial⟩, rfl⟩
  · exact identifies_previewImage seo fun image => ⟨⟨named _ image (by decide), trivial⟩, rfl⟩
  · exact ⟨⟨⟨⟨by decide, rfl⟩, by decide⟩, named _ _ (by decide),
      ⟨⟨by decide, by decide⟩, by decide⟩, ⟨⟨by decide, by decide⟩, by decide⟩,
      named _ _ (by decide), readable_criticalStyle, trivial⟩, rfl⟩

theorem identifies_preloadLink (address : String) : Identifies [preloadLink address] [] := by
  unfold preloadLink
  split
  · exact ⟨⟨⟨⟨by decide, rfl⟩, by decide⟩, trivial⟩, rfl⟩
  · exact ⟨⟨⟨⟨by decide, rfl⟩, by decide⟩, trivial⟩, rfl⟩

theorem readable_plainStyle (address : String) : (plainStyle address).Readable :=
  ⟨⟨by decide, rfl⟩, by decide⟩

theorem readable_deferredStyle (address : String) : (deferredStyle address).Readable :=
  ⟨⟨by decide, rfl⟩, by decide⟩

theorem identifies_headLinks (asset : String) (preloads : List String) :
    Identifies (headLinks asset preloads) [] := by
  unfold headLinks
  refine .append_nothing (.append_nothing ?_ ?_) ?_
  · exact ⟨⟨⟨⟨by decide, by decide⟩, by decide⟩, ⟨⟨by decide, by decide⟩, by decide⟩, trivial⟩, rfl⟩
  · exact identifies_map_nothing preloads identifies_preloadLink
  · exact ⟨⟨readable_deferredStyle _, readable_deferredStyle _,
      ⟨⟨by decide, by decide⟩, Or.inr ⟨by decide, readable_plainStyle _, readable_plainStyle _,
        trivial⟩⟩,
      ⟨⟨by decide, by decide⟩, by decide⟩, ⟨⟨by decide, by decide⟩, by decide⟩,
      ⟨⟨by decide, by decide⟩, by decide⟩, trivial⟩, rfl⟩

/-! ## The body -/

theorem closesNothing_append_of_not_mem {first second : List Char} (plain : '<' ∉ first)
    (nothing : closesNothing second = true) : closesNothing (first ++ second) = true := by
  induction first with
  | nil => exact nothing
  | cons character others inductionHypothesis =>
      have notLess : character ≠ '<' := (List.ne_of_not_mem_cons plain).symm
      have plainLater : '<' ∉ others := List.not_mem_of_not_mem_cons plain
      rw [List.cons_append]
      exact closesNothing_cons (inductionHypothesis plainLater) (Or.inl notLess)

/-- A setting hands any data to the scripts as code without end tags. -/
theorem isCode_globalSetting {name : String} (plain : isPlainText name = true) (value : Json) :
    (globalSetting name value).IsCode := by
  rw [globalSetting, Html.IsCode, toList_settingText]
  exact closesNothing_append_of_not_mem (less_not_mem_settingName plain)
    (closesNothing_inlineData value)

theorem isCode_settings (islands : List Island) :
    ∀ child ∈ [globalSetting "__DYNAMIC_COMPONENTS__" (.array (islands.map Island.toJson)),
      globalSetting "__API_BASE_URL__" (.text options.apiUrl),
      globalSetting "__SITE_CONFIG__" (siteConfig website)], child.IsCode := by
  intro child member
  simp only [List.mem_cons, List.not_mem_nil, or_false] at member
  rcases member with rfl | rfl | rfl
  · exact isCode_globalSetting (by decide) _
  · exact isCode_globalSetting (by decide) _
  · exact isCode_globalSetting (by decide) _

theorem isCode_workerRegistration :
    ∀ child ∈ (Script.codeLines workerRegistration).map Html.verbatim, child.IsCode := by
  intro child member
  obtain ⟨line, isLine, rfl⟩ := List.mem_map.mp member
  exact isCode_of_isPlainText (isPlainText_workerRegistration line isLine)

theorem readable_settings (islands : List Island) : (settings website options islands).Readable :=
  ⟨⟨by decide, rfl⟩, Or.inl ⟨by decide, isCode_settings website options islands⟩⟩

theorem readable_workerRegistration :
    (Html.block 2 "script" [] ((Script.codeLines workerRegistration).map .verbatim)).Readable :=
  ⟨⟨by decide, rfl⟩, Or.inl ⟨by decide, isCode_workerRegistration⟩⟩

theorem readable_deferredScript (address : String) : (deferredScript address).Readable :=
  ⟨⟨by decide, rfl⟩, Or.inl ⟨by decide, nofun⟩⟩

/-- The scripts of a body give no ids. -/
theorem identifies_scripts (asset : String) (islands : List Island) :
    Identifies
      [ .block 2 "script" [] ((Script.codeLines workerRegistration).map .verbatim),
        settings website options islands,
        deferredScript "/js/global.js",
        deferredScript (scriptAddress asset) ] [] := by
  refine ⟨⟨readable_workerRegistration, readable_settings website options islands,
    readable_deferredScript _, readable_deferredScript _, trivial⟩, ?_⟩
  have noCode := Html.idsOf_of_isCode isCode_workerRegistration
  simp only [settings, deferredScript, Html.sheet, Html.idsOf, Html.ids, noCode]
  rfl

theorem identifies_prefetchLinks (deferrals : List String) :
    Identifies (deferrals.map fun address =>
      .void "link" [.fixed "rel" "prefetch", .holding "href" address]) [] := by
  apply identifies_map_nothing
  intro address
  exact ⟨⟨⟨⟨by decide, rfl⟩, by decide⟩, trivial⟩, rfl⟩

/-- The region with the components gives its own id and theirs. -/
theorem identifies_mainRegion {bodies : List Html} {ids : List (List Char)}
    (inside : Identifies bodies ids) :
    Identifies [mainRegion bodies] ("main-content".toList :: ids) :=
  inside.block ⟨by decide, by decide⟩ (by decide)

theorem identifies_app {bodies : List Html} {ids : List (List Char)}
    (inside : Identifies bodies ids) :
    Identifies
      [ .sheet "div"
          [ .fixed "id" "app", .holding "data-page-id" page.id,
            .holding "data-page-slug" page.path ]
          [mainRegion bodies] ]
      ("app".toList :: "main-content".toList :: ids) :=
  (identifies_mainRegion inside).block ⟨by decide, rfl⟩ (by decide)

/-- A body gives the ids of its two regions and those of the components. -/
theorem identifies_bodyOf (deferrals : List String) {bodies : List Html} (islands : List Island)
    {ids : List (List Char)} (inside : Identifies bodies ids) :
    Identifies [bodyOf page website options deferrals bodies islands]
      ("app".toList :: "main-content".toList :: ids) := by
  have skipLink : Identifies
      [.element "a" [.fixed "href" "#main-content", .fixed "class" "skip-link"]
        [.text [.literal "Skip to main content"]]] [] :=
    (identifies_singleton (.text [.literal "Skip to main content"]) (by rfl)).element
      ⟨by decide, by decide⟩ (by decide)
  have scripts := identifies_scripts website options page.asset islands
  have children := ((skipLink.append (identifies_app page inside)).append_nothing
    scripts).append_nothing (identifies_prefetchLinks deferrals)
  exact children.block ⟨by decide, rfl⟩ (by decide)

/-! ## The document -/

/-- A document gives the ids of its two regions and those of the components. -/
theorem idsFrom_documentText (preloads deferrals : List String) {bodies : List Html}
    (islands : List Island) {ids : List (List Char)} (inside : Identifies bodies ids) :
    idsFrom .text (documentText (documentRoot page website options seo preloads deferrals bodies
        islands)).toList = "app".toList :: "main-content".toList :: ids := by
  have head : Identifies
      [.sheet "head" [] (metadata website options seo ++ headLinks page.asset preloads)] [] :=
    ((identifies_metadata website options seo).append_nothing
      (identifies_headLinks page.asset preloads)).block ⟨by decide, rfl⟩ (by decide)
  have root : Identifies [documentRoot page website options seo preloads deferrals bodies islands]
      ("app".toList :: "main-content".toList :: ids) :=
    (head.append (identifies_bodyOf page website options deferrals islands inside)).block
      ⟨by decide, rfl⟩ (by decide)
  have given := root.given
  rw [Html.idsOf, Html.idsOf, List.append_nil] at given
  have doctype : Finds .text "<!DOCTYPE html>\n".toList [] .text := fun _ => rfl
  have tree := finds_renderAt 0 _ root.readable.1
  have newline := finds_text (by decide : '<' ∉ "\n".toList)
  rw [documentText_eq, String.toList_append, String.toList_append, ← given]
  exact ((doctype.append tree).append_nothing newline).idsFrom_eq

/-- The components of a page give the ids of their containers and those inside, in order. -/
theorem exists_identifies_partsOf (builtIn : options.emitter = Emitter.builtIn)
    (nodes : List Node) :
    ∃ ids, Identifies ((partsOf options nodes).map (·.fragment.body)) ids ∧
      ids.map idOf = nodes.flatMap fun node => containerId node :: innerIds node := by
  induction nodes with
  | nil => exact ⟨[], identifies_nil, rfl⟩
  | cons node others inductionHypothesis =>
      obtain ⟨ids, first, areIds⟩ := exists_identifies_emitOrSubstitute node
      obtain ⟨more, rest, areMore⟩ := inductionHypothesis
      rw [← builtIn] at first
      refine ⟨ids ++ more, first.append rest, ?_⟩
      rw [List.map_append, areIds, areMore, List.flatMap_cons]

/-- The ids that a page gives: those of its two regions, and those of its components in their
order. -/
def pageIds (nodes : List Node) : List String :=
  "app" :: "main-content" :: nodes.flatMap fun node => containerId node :: innerIds node

theorem elementIds_html (builtIn : options.emitter = Emitter.builtIn) :
    elementIds (compile page website options).html = pageIds (componentsOf page) := by
  obtain ⟨content, isCompiled, isContent⟩ :=
    exists_compileContent_eq page website options
  obtain ⟨ids, inside, areIds⟩ := exists_identifies_partsOf options builtIn content.components
  have found := idsFrom_documentText page website options
    (seoOf page website options content.ogImage)
    (collectHints (content.components.flatMap Island.preloads))
    (collectHints (content.components.flatMap Island.deferrals))
    (content.components.filterMap (islandOf options.classifier)) inside
  have regions : idOf "app".toList = "app" ∧ idOf "main-content".toList = "main-content" := by
    decide
  rw [isCompiled, ← isContent, elementIds]
  show (idsFrom .text (documentText _).toList).map idOf = _
  rw [found, List.map_cons, List.map_cons, areIds, regions.1, regions.2, pageIds]

end StaticSite.Page
