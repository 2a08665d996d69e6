import StaticSite.Proofs.Page.Content
import StaticSite.Proofs.Page.InlineData

/-!
Contract: what a page hands to the runtime that fills its islands.

Owns:
- the islands of a page as the dynamic ones of its components, in their order;
- the element of a document that hands data to scripts, and where it stands;
- the containers of islands;
- the law that the runtime finds the data of every island and its container.

Does not own: what the runtime does with them (see `StaticSite.Site.Hydration`).
-/

namespace StaticSite.Page

open StaticSite.Component StaticSite.Emission StaticSite.Json StaticSite.Markup

/-! ## Islands -/

/-- Whether a component is filled in the browser. -/
def isDynamic (table : Island.Table) (node : Node) : Bool :=
  (table.classify node.type).isDynamic

/-- What is written down about a component, under the record of its type. -/
def islandRecord (table : Island.Table) (node : Node) : Island :=
  { id := node.id
    type := node.type
    props := node.props
    apiEndpoint := (table.classify node.type).apiEndpoint
    cacheStrategy := (table.classify node.type).cacheStrategy
    hydrationStrategy := (table.classify node.type).hydrationStrategy }

/-- The islands among some components are the dynamic ones, in their order. -/
theorem filterMap_islandOf (table : Island.Table) (nodes : List Node) :
    nodes.filterMap (islandOf table) =
      (nodes.filter (isDynamic table)).map (islandRecord table) := by
  induction nodes with
  | nil => rfl
  | cons node others inductionHypothesis =>
      cases dynamic : (table.classify node.type).isDynamic with
      | false =>
          have noIsland : islandOf table node = none := by
            simp only [islandOf, dynamic, Bool.false_eq_true, if_false]
          rw [List.filterMap_cons_none noIsland, inductionHypothesis,
            List.filter_cons_of_neg
              (by simp only [isDynamic, dynamic, Bool.false_eq_true, not_false_iff])]
      | true =>
          have isIsland : islandOf table node = some (islandRecord table node) := by
            simp only [islandOf, dynamic, if_true, islandRecord]
          rw [List.filterMap_cons_some isIsland, inductionHypothesis,
            List.filter_cons_of_pos (by exact dynamic), List.map_cons]

/-- The warnings about the content of a page. -/
def contentWarnings (stored : Option String) : List Warning :=
  match readContent stored with
  | .ok _ => []
  | .error error => [contentWarning error]

/-- A page is compiled from its components, whether or not its content is usable. -/
theorem exists_compileContent_eq (page : Page) (website : Website) (options : Options) :
    ∃ content, compile page website options =
      compileContent page website options (contentWarnings page.content) content ∧
        content.components = componentsOf page := by
  unfold compile contentWarnings componentsOf
  cases readContent page.content with
  | ok content => exact ⟨content, rfl, rfl⟩
  | error error => exact ⟨.empty, rfl, rfl⟩

/-- The islands of a page are its dynamic components. -/
theorem islands_compile (page : Page) (website : Website) (options : Options) :
    (compile page website options).islands =
      ((componentsOf page).filter (isDynamic options.classifier)).map
        (islandRecord options.classifier) := by
  obtain ⟨content, isCompiled, isContent⟩ :=
    exists_compileContent_eq page website options
  rw [isCompiled, ← isContent]
  exact filterMap_islandOf options.classifier content.components

/-! ## The element with the data -/

/-- The element that hands three texts to the scripts of a document. -/
def settingsElement (components address config : String) : String :=
  "<script>\n" ++
    ("window.__DYNAMIC_COMPONENTS__ = " ++ components ++ ";\n") ++
    ("window.__API_BASE_URL__ = " ++ address ++ ";\n") ++
    ("window.__SITE_CONFIG__ = " ++ config ++ ";\n") ++
    "</script>"

theorem renderAt_settings (website : Website) (options : Options) (islands : List Island) :
    (settings website options islands).renderAt 0 =
      settingsElement (inlineData (.array (islands.map Island.toJson)))
        (inlineData (.text options.apiUrl)) (inlineData (siteConfig website)) := by
  have opening : startTag "script" [] = "<script>" := by decide
  have closing : endTag "script" = "</script>" := by decide
  have components : "window." ++ "__DYNAMIC_COMPONENTS__" ++ " = " =
      "window.__DYNAMIC_COMPONENTS__ = " := by decide
  have address : "window." ++ "__API_BASE_URL__" ++ " = " = "window.__API_BASE_URL__ = " := by
    decide
  have config : "window." ++ "__SITE_CONFIG__" ++ " = " = "window.__SITE_CONFIG__ = " := by
    decide
  have newline : ";" ++ "\n" = ";\n" := by decide
  have line : "<script>" ++ "\n" = "<script>\n" := by decide
  unfold settings settingsElement
  rw [renderAt_sheet, renderLines_cons, renderLines_cons, renderLines_cons]
  unfold globalSetting
  simp only [Html.renderAt, Html.renderLines, opening, closing, components, address, config]
  rw [← newline, ← line]
  simp only [String.append_assoc, String.empty_append]

def mainStart : String :=
  "<main id=\"main-content\" role=\"main\">\n"

theorem renderAt_mainRegion (bodies : List Html) :
    (mainRegion bodies).renderAt 0 = mainStart ++ Html.renderLines 0 bodies ++ "</main>" := by
  have opening : startTag "main" [.fixed "id" "main-content", .fixed "role" "main"] ++ "\n" =
      mainStart := by decide
  have closing : endTag "main" = "</main>" := by decide
  rw [mainRegion, renderAt_sheet, opening, closing]

/-- Whether a text holds two parts, the second one somewhere behind the first. -/
def HoldsInOrder (first second text : String) : Prop :=
  ∃ before between after, text = before ++ first ++ between ++ second ++ after

theorem HoldsInOrder.surrounded {first second text : String}
    (holds : HoldsInOrder first second text) (start rest : String) :
    HoldsInOrder first second (start ++ text ++ rest) := by
  obtain ⟨before, between, after, isText⟩ := holds
  refine ⟨start ++ before, between, after ++ rest, ?_⟩
  rw [isText]
  simp only [String.append_assoc]

theorem holdsInOrder_renderLines (link main worker data : Html) (attributes : List Attribute)
    (others : List Html) :
    HoldsInOrder (main.renderAt 0) (data.renderAt 0)
      (Html.renderLines 0 (link :: .sheet "div" attributes [main] :: worker :: data :: others)) := by
  refine ⟨link.renderAt 0 ++ "\n" ++ startTag "div" attributes ++ "\n",
    "\n" ++ endTag "div" ++ "\n" ++ worker.renderAt 0 ++ "\n",
    "\n" ++ Html.renderLines 0 others, ?_⟩
  rw [renderLines_cons, renderLines_cons, renderAt_sheet, renderLines_cons main, renderLines_cons,
    renderLines_cons]
  simp only [Html.renderLines, String.append_assoc, String.empty_append]

/-- The text of a document holds the main region and, behind it, the data for scripts. -/
theorem holdsInOrder_documentText (page : Page) (website : Website) (options : Options)
    (seo : Seo) (preloads deferrals : List String) (bodies : List Html) (islands : List Island) :
    HoldsInOrder ((mainRegion bodies).renderAt 0) ((settings website options islands).renderAt 0)
      (documentText (documentRoot page website options seo preloads deferrals bodies islands)) := by
  have inBody : HoldsInOrder ((mainRegion bodies).renderAt 0)
      ((settings website options islands).renderAt 0)
      ((bodyOf page website options deferrals bodies islands).renderAt 0) := by
    rw [bodyOf, renderAt_sheet]
    exact (holdsInOrder_renderLines _ _ _ _ _ _).surrounded _ _
  have inLines := (inBody.surrounded "" ("\n" ++ Html.renderLines 0 [])).surrounded
    ((Html.sheet "head" [] (metadata website options seo ++
      headLinks page.asset preloads)).renderAt 0 ++ "\n") ""
  rw [documentText_eq, documentRoot, renderAt_sheet, renderLines_cons, renderLines_cons]
  have inRoot := (inLines.surrounded (startTag "html"
    [.holding "lang" website.languageOrDefault, .fixed "dir" "ltr"] ++ "\n") (endTag "html"))
  have inDocument := inRoot.surrounded "<!DOCTYPE html>\n" "\n"
  simp only [String.append_assoc, String.empty_append, String.append_empty] at inDocument ⊢
  exact inDocument

/-! ## Containers -/

theorem attributeEntity_of_isIdCharacter {character : Char}
    (safe : isIdCharacter character = true) : Text.attributeEntity character = [character] := by
  unfold Text.attributeEntity Text.contentEntity
  split
  · exact absurd safe (by decide)
  · split
    · exact absurd safe (by decide)
    · exact absurd safe (by decide)
    · exact absurd safe (by decide)
    · exact absurd safe (by decide)
    · rfl

/-- A safe id is written into an attribute as it is. -/
theorem escape_of_isSafeId {id : String} (safe : IsSafeId id) : Text.escape id = id := by
  have kept : ∀ characters : List Char, (∀ character ∈ characters, isIdCharacter character = true) →
      characters.flatMap Text.attributeEntity = characters := by
    intro characters allSafe
    induction characters with
    | nil => rfl
    | cons character others inductionHypothesis =>
        obtain ⟨safeFirst, safeOthers⟩ := List.forall_mem_cons.mp allSafe
        rw [List.flatMap_cons, attributeEntity_of_isIdCharacter safeFirst,
          inductionHypothesis safeOthers, List.singleton_append]
  rw [← String.toList_inj, Text.toList_escape, kept id.toList safe]

/-- The beginning of the container of a component. -/
def containerStart (id : String) : String :=
  "<div id=\"component-" ++ id ++ "\""

/-- Whatever renders a component, its markup stands in its container. -/
theorem exists_container_of_emitOrSubstitute (emitter : Emitter) (node : Node) :
    ∃ inner, (emitter.emitOrSubstitute node).body = container node inner := by
  unfold Emitter.emitOrSubstitute Emitter.emit
  cases emitter.renderers.lookup node.type with
  | none => exact ⟨_, rfl⟩
  | some renderer =>
      cases isRendered : renderer node with
      | ok fragment =>
          simp only [isRendered]
          exact ⟨_, rfl⟩
      | error cause =>
          simp only [isRendered]
          exact ⟨_, rfl⟩

theorem render_containerId {id : String} (safe : IsSafeId id) :
    (Attribute.valued "id" [.literal "component-", .anywhere id]).render =
      " id=\"component-" ++ id ++ "\"" := by
  have opening : " " ++ "id" ++ "=\"" ++ "component-" = " id=\"component-" := by decide
  rw [← opening]
  simp only [Attribute.render, renderPieces, List.map_cons, List.map_nil, Piece.render,
    String.join_cons, String.join_nil, escape_of_isSafeId safe, String.append_empty,
    String.append_assoc]

theorem exists_container_eq {node : Node} (safe : IsSafeId node.id) (inner : Html) :
    ∃ rest, (container node inner).renderAt 0 = containerStart node.id ++ rest := by
  have opening : "<" ++ "div" ++ " id=\"component-" = "<div id=\"component-" := by decide
  unfold container containerStart
  rw [renderAt_sheet, startTag, List.map_cons, render_containerId safe, String.join_cons,
    ← opening]
  simp only [String.append_assoc]
  exact ⟨_, rfl⟩

theorem infix_renderLines {tree : Html} {trees : List Html} (member : tree ∈ trees) :
    (tree.renderAt 0).toList <:+: (Html.renderLines 0 trees).toList := by
  induction trees with
  | nil => cases member
  | cons first others inductionHypothesis =>
      rw [renderLines_cons, String.toList_append, String.toList_append]
      rcases List.mem_cons.mp member with rfl | later
      · have inLine := (List.prefix_append (tree.renderAt 0).toList "\n".toList).isInfix
        exact inLine.trans (List.prefix_append _ _).isInfix
      · exact (inductionHypothesis later).trans (List.suffix_append _ _).isInfix

/-- The main region holds the container of every component with a safe id. -/
theorem containerStart_infix_partsOf {options : Options} {nodes : List Node} {node : Node}
    (member : node ∈ nodes) (safe : IsSafeId node.id) :
    (containerStart node.id).toList <:+:
      (Html.renderLines 0 ((partsOf options nodes).map (·.fragment.body))).toList := by
  obtain ⟨inner, isBody⟩ := exists_container_of_emitOrSubstitute options.emitter node
  obtain ⟨rest, isContainer⟩ := exists_container_eq safe inner
  have listed : container node inner ∈ (partsOf options nodes).map (·.fragment.body) := by
    rw [partsOf, List.map_map, ← isBody]
    exact List.mem_map.mpr ⟨node, member, rfl⟩
  have begins : (containerStart node.id).toList <+: ((container node inner).renderAt 0).toList := by
    rw [isContainer, String.toList_append]
    exact List.prefix_append _ _
  exact begins.isInfix.trans (infix_renderLines listed)

/-! ## Data for the runtime -/

/-- Whether a text hands a value on: it is one line of JSON that is read as the same data. -/
def Hands (text : String) (value : Json) : Prop :=
  OneLine text.toList ∧ ∃ data, Json.read text = .ok data ∧ SameData value data

theorem hands_inlineData {value : Json} (regular : value.IsRegular)
    (readBack : ∀ number ∈ value.reals, ReadsBack number)
    (fits : value.depth ≤ openContainerLimit) : Hands (inlineData value) value :=
  ⟨oneLine_inlineData value, exists_read_inlineData regular readBack fits⟩

theorem hands_text (text : String) : Hands (inlineData (.text text)) (.text text) :=
  hands_inlineData (isRegular_text text) (fun _ member => absurd member List.not_mem_nil)
    (Nat.zero_le _)

theorem optionalText_eq (text : Option String) :
    Island.optionalText text = text.elim .null .text := by
  cases text <;> rfl

theorem isRegular_optionalText (text : Option String) : (Island.optionalText text).IsRegular := by
  cases text with
  | none => exact isRegular_of_isReadScalar .null
  | some value => exact isRegular_text value

theorem depth_optionalText (text : Option String) : (Island.optionalText text).depth = 0 := by
  cases text <;> rfl

theorem reals_optionalText (text : Option String) : (Island.optionalText text).reals = [] := by
  cases text <;> rfl

theorem hands_siteConfig (website : Website) :
    Hands (inlineData (siteConfig website)) (siteConfig website) := by
  have distinct : ["id", "name", "language", "theme"].Nodup := by decide
  apply hands_inlineData
  · refine isRegular_object_iff.mpr ⟨distinct, ?_⟩
    exact areRegular_cons (isRegular_text _) (areRegular_cons (isRegular_text _)
      (areRegular_cons (isRegular_text _) (areRegular_cons (isRegular_optionalText _)
        areRegular_nil)))
  · intro number member
    simp [siteConfig, reals, realsOfMembers, reals_optionalText] at member
  · simp [siteConfig, depth, depthOfMembers, depth_optionalText, openContainerLimit]

theorem isRegular_toJson {island : Island} (regular : (Json.object island.props).IsRegular) :
    island.toJson.IsRegular := by
  have distinct :
      ["id", "type", "props", "apiEndpoint", "cacheStrategy", "hydrationStrategy"].Nodup := by
    decide
  refine isRegular_object_iff.mpr ⟨distinct, ?_⟩
  exact areRegular_cons (isRegular_text _) (areRegular_cons (isRegular_text _)
    (areRegular_cons regular (areRegular_cons (isRegular_optionalText _)
      (areRegular_cons (isRegular_text _) (areRegular_cons (isRegular_text _) areRegular_nil)))))

theorem depth_toJson (island : Island) :
    island.toJson.depth = (Json.object island.props).depth + 1 := by
  simp [Island.toJson, depth, depthOfMembers, depth_optionalText]

theorem reals_toJson (island : Island) :
    island.toJson.reals = (Json.object island.props).reals := by
  simp [Island.toJson, reals, realsOfMembers, reals_optionalText]

/-- The data of islands are handed on, as long as their props are regular, are not nested deeper
than content, and hold only numbers that read back. -/
theorem hands_islands {islands : List Island}
    (regular : ∀ island ∈ islands, (Json.object island.props).IsRegular)
    (fits : ∀ island ∈ islands, (Json.object island.props).depth ≤ depthLimit)
    (readBack : ∀ island ∈ islands, ∀ number ∈ (Json.object island.props).reals,
      ReadsBack number) :
    Hands (inlineData (.array (islands.map Island.toJson))) (.array (islands.map Island.toJson)) := by
  apply hands_inlineData
  · refine isRegular_array_iff.mpr fun item isItem => ?_
    obtain ⟨island, member, rfl⟩ := List.mem_map.mp isItem
    exact isRegular_toJson (regular island member)
  · intro number inItems
    obtain ⟨item, isItem, inItem⟩ := mem_realsOfItems_iff.mp inItems
    obtain ⟨island, member, rfl⟩ := List.mem_map.mp isItem
    rw [reals_toJson] at inItem
    exact readBack island member number inItem
  · have shallow : depthOfItems (islands.map Island.toJson) ≤ depthLimit + 1 := by
      refine depthOfItems_le_iff.mpr fun item isItem => ?_
      obtain ⟨island, member, rfl⟩ := List.mem_map.mp isItem
      rw [depth_toJson]
      exact Nat.add_le_add_right (fits island member) 1
    have room : depthLimit + 1 + 1 ≤ openContainerLimit := by decide
    rw [depth]
    exact Nat.le_trans (Nat.add_le_add_right shallow 1) room

/-! ## The handshake -/

/-- What a page and the runtime agree on. -/
structure Handshake (page : Page) (website : Website) (options : Options) : Prop where
  /-- The islands are the dynamic components in their order, each under the record of its
  type. -/
  islands_eq : (compile page website options).islands =
    ((componentsOf page).filter (isDynamic options.classifier)).map
      (islandRecord options.classifier)
  /-- Behind the main region, an element hands on the islands, the address of the data and what
  the scripts know about the website; and the main region holds the container of each island. -/
  handed : ∃ inside components address config,
    HoldsInOrder (mainStart ++ inside ++ "</main>") (settingsElement components address config)
        (compile page website options).html ∧
      Hands components (.array ((compile page website options).islands.map fun island =>
        .object
          [ ("id", .text island.id),
            ("type", .text island.type),
            ("props", .object island.props),
            ("apiEndpoint", island.apiEndpoint.elim .null .text),
            ("cacheStrategy", .text island.cacheStrategy.name),
            ("hydrationStrategy", .text island.hydrationStrategy.name) ])) ∧
      Hands address (.text options.apiUrl) ∧
      Hands config (.object
        [ ("id", .text website.id),
          ("name", .text (website.name.getD "")),
          ("language", .text (Text.firstOf [website.language] "en")),
          ("theme", website.theme.elim .null .text) ]) ∧
      ∀ island ∈ (compile page website options).islands,
        (containerStart island.id).toList <:+: inside.toList

theorem siteConfig_eq (website : Website) :
    siteConfig website = .object
      [ ("id", .text website.id),
        ("name", .text (website.name.getD "")),
        ("language", .text (Text.firstOf [website.language] "en")),
        ("theme", website.theme.elim .null .text) ] := by
  have isName : Text.firstOf [website.name] "" = website.name.getD "" := by
    cases website.name with
    | none => rfl
    | some name =>
        by_cases empty : name = ""
        · rw [empty]
          rfl
        · simp [Text.firstOf, Text.nonempty?, Option.filter, empty]
  rw [siteConfig, isName, optionalText_eq]
  rfl

theorem toJson_eq (island : Island) :
    island.toJson = .object
      [ ("id", .text island.id),
        ("type", .text island.type),
        ("props", .object island.props),
        ("apiEndpoint", island.apiEndpoint.elim .null .text),
        ("cacheStrategy", .text island.cacheStrategy.name),
        ("hydrationStrategy", .text island.hydrationStrategy.name) ] := by
  rw [Island.toJson, optionalText_eq]

theorem exists_component_of_island {page : Page} {website : Website} {options : Options}
    {island : Island} (member : island ∈ (compile page website options).islands) :
    ∃ node ∈ componentsOf page, island = islandRecord options.classifier node := by
  rw [islands_compile] at member
  obtain ⟨node, isDynamicNode, rfl⟩ := List.mem_map.mp member
  exact ⟨node, (List.mem_filter.mp isDynamicNode).1, rfl⟩

/-- A page with a dynamic component whose props hold a fraction, a text that would end the script,
and an object. -/
def statsPage : Page :=
  { id := "p"
    name := none
    slug := none
    content := some ("\x7b\"components\": [\x7b\"type\": \"stats\", " ++
      "\"props\": \x7b\"share\": 0.25, \"note\": \"</script>\", \"more\": \x7b\x7d\x7d\x7d]\x7d")
    metaTitle := none
    metaDescription := none
    metaKeywords := none }

def statsWebsite : Website :=
  { id := "w"
    name := none
    description := none
    language := none
    theme := none
    pages := [statsPage] }

end StaticSite.Page
