import StaticSite.Proofs.Emission.Renderer
import StaticSite.Proofs.Markup.Filling
import StaticSite.Proofs.Page.Canonical

/-!
Contract: the regions of a document, which only its own markup ends.

Owns:
- the end tags of the document of a page, in their order;
- the law that no value of a page, a website or a component writes an end tag;
- how often a document ends each of its regions.

Does not own: end tags of other trees (see `StaticSite.Proofs.Markup.Guard`).
-/

namespace StaticSite.Page

open StaticSite.Component StaticSite.Emission StaticSite.Markup

/-! ## Components -/

/-- The elements that the markup of components consists of. -/
def componentTags : List String :=
  [ "a", "article", "button", "details", "div", "figcaption", "figure", "footer", "form", "h1",
    "h2", "h3", "h4", "label", "li", "nav", "p", "span", "strong", "summary", "textarea", "ul",
    "video" ]

theorem catalogue_keepsTo_componentTags :
    ∀ definition ∈ catalogue, definition.markup.keepsTo componentTags = true := by
  decide +kernel

theorem within_inner {node : Node} {inner : Html} (isInner : Inner node inner) :
    Within componentTags [trimmed inner] := by
  cases isInner with
  | filled definition member scopes =>
      exact (within_fill definition.markup scopes
        (catalogue_keepsTo_componentTags definition member)).row
  | placeholder message =>
      refine Within.element (by decide) ?_ (by decide) (within_singleton ?_ ?_)
      · decide
      · rfl
      · exact fun _ member => absurd member List.not_mem_nil
  | unknown =>
      refine Within.element (by decide) ?_ (by decide) (within_singleton ?_ ?_)
      · decide
      · rfl
      · exact fun _ member => absurd member List.not_mem_nil

/-- The container of a component is written with the elements of components only. -/
theorem within_emitOrSubstitute (node : Node) :
    Within componentTags [(Emitter.builtIn.emitOrSubstitute node).body] := by
  obtain ⟨inner, isInner, isBody⟩ := exists_inner_of_emitOrSubstitute node
  rw [isBody]
  refine Within.block (by decide) ?_ (by decide) (within_inner isInner)
  rfl

theorem within_partsOf {options : Options} (builtIn : options.emitter = Emitter.builtIn)
    (nodes : List Node) :
    Within componentTags ((partsOf options nodes).map (·.fragment.body)) := by
  induction nodes with
  | nil => exact within_nil
  | cons node others inductionHypothesis =>
      have first := within_emitOrSubstitute node
      rw [← builtIn] at first
      exact first.append inductionHypothesis

/-! ## Data and code of the document -/

theorem head?_guardEndTags (text : List Char) : (guardEndTags text).head? = text.head? := by
  unfold guardEndTags
  split <;> rfl

theorem closesNothing_cons {first : Char} {rest : List Char} (nothing : closesNothing rest = true)
    (apart : first ≠ '<' ∨ rest ≠ [] ∧ rest.head? ≠ some '/') :
    closesNothing (first :: rest) = true := by
  cases rest with
  | nil =>
      rcases apart with plain | ⟨some, _⟩
      · exact bne_iff_ne.mpr plain
      · exact absurd rfl some
  | cons second others =>
      have noTag : ¬ (first = '<' ∧ second = '/') := by
        rintro ⟨isLess, isSlash⟩
        rcases apart with plain | ⟨_, noSlash⟩
        · exact plain isLess
        · exact noSlash (by rw [isSlash]; rfl)
      simp only [closesNothing, nothing, Bool.and_true, Bool.not_eq_true', Bool.and_eq_false_iff,
        beq_eq_false_iff_ne]
      tauto

/-- Guarded text with a semicolon after it holds no end tag. -/
theorem closesNothing_guardEndTags (text : List Char) :
    closesNothing (guardEndTags text ++ [';']) = true := by
  induction text using guardEndTags.induct with
  | case1 rest inductionHypothesis =>
      refine closesNothing_cons (closesNothing_cons (closesNothing_cons inductionHypothesis ?_)
        ?_) ?_
      · exact Or.inl (by decide)
      · exact Or.inl (by decide)
      · exact Or.inr ⟨List.cons_ne_nil _ _, by simp⟩
  | case2 character rest notTag inductionHypothesis =>
      have isText : guardEndTags (character :: rest) = character :: guardEndTags rest := by
        rw [guardEndTags]
        exact notTag
      rw [isText, List.cons_append]
      refine closesNothing_cons inductionHypothesis ?_
      by_cases isLess : character = '<'
      · refine Or.inr ⟨by simp, ?_⟩
        rw [List.head?_append, head?_guardEndTags]
        cases rest with
        | nil => decide
        | cons second others =>
            intro isSlash
            exact notTag others isLess (by rw [Option.some.inj isSlash])
      · exact Or.inl isLess
  | case3 => decide

theorem closesNothing_inlineData (value : Json) :
    closesNothing ((inlineData value).toList ++ [';']) = true := by
  rw [inlineData, String.toList_ofList]
  exact closesNothing_guardEndTags _

/-- A setting is written as its name, which cannot begin a tag, and its data. -/
theorem less_not_mem_settingName {name : String} (plain : isPlainText name = true) :
    '<' ∉ ("window." ++ name ++ " = ").toList := by
  intro member
  simp only [String.toList_append, List.mem_append] at member
  rcases member with (window | inName) | equals
  · exact absurd window (by decide)
  · exact less_not_mem_of_isPlainText plain inName
  · exact absurd equals (by decide)

theorem toList_settingText (name : String) (value : Json) :
    ("window." ++ name ++ " = " ++ inlineData value ++ ";").toList =
      ("window." ++ name ++ " = ").toList ++ ((inlineData value).toList ++ [';']) := by
  simp only [String.toList_append, List.append_assoc]
  rfl

/-- A setting hands any data to the scripts without holding an end tag. -/
theorem guarded_globalSetting {name : String} (plain : isPlainText name = true) (value : Json) :
    (globalSetting name value).Guarded := by
  have start : Closes ("window." ++ name ++ " = ").toList [] :=
    closes_of_not_mem (less_not_mem_settingName plain)
  have data : Closes ((inlineData value).toList ++ [';']) [] :=
    closes_of_closesNothing (closesNothing_inlineData value)
  rw [globalSetting, Html.Guarded, toList_settingText]
  exact start.append data

theorem guarded_verbatim {content : String} (plain : isPlainText content = true) :
    (Html.verbatim content).Guarded :=
  closes_of_not_mem (less_not_mem_of_isPlainText plain)

theorem isPlainText_criticalStyle : isPlainText criticalStyle = true := by
  decide +kernel

theorem isPlainText_workerRegistration :
    ∀ line ∈ Script.codeLines workerRegistration, isPlainText line = true := by
  decide +kernel

/-! ## Attributes of the document -/

theorem isPlain_fixed {name literal : String} (plain : isPlainText name = true)
    (plainLiteral : isPlainText literal = true) :
    (Attribute.fixed name literal).isPlain = true := by
  simp [Attribute.fixed, Attribute.isPlain, Piece.isPlain, plain, plainLiteral]

theorem isPlain_holding {name : String} (plain : isPlainText name = true) (value : String) :
    (Attribute.holding name value).isPlain = true := by
  simp [Attribute.holding, Attribute.isPlain, Piece.isPlain, plain]

/-! ## The head -/

theorem guarded_meta {kind name : String} (plainKind : isPlainText kind = true)
    (plainName : isPlainText name = true) (value : String) :
    (Html.void "meta" [.fixed kind name, .holding "content" value]).Guarded := by
  refine ⟨by decide, ?_⟩
  rw [List.all_cons, List.all_cons, isPlain_fixed plainKind plainName,
    isPlain_holding (by decide)]
  rfl

/-- A link with an address, whose other attributes are plain. -/
theorem guarded_link {before after : List Attribute}
    (plainBefore : before.all Attribute.isPlain = true)
    (plainAfter : after.all Attribute.isPlain = true) (address : String) :
    (Html.void "link" (before ++ .holding "href" address :: after)).Guarded := by
  refine ⟨by decide, ?_⟩
  rw [List.all_append, List.all_cons, plainBefore, plainAfter, isPlain_holding (by decide)]
  rfl

variable (page : Page) (website : Website) (options : Options) (seo : Seo)

theorem guarded_previewImage {element : String → Html}
    (guarded : ∀ image, (element image).Guarded) : Html.AllGuarded (previewImage element seo) := by
  unfold previewImage
  cases Text.nonempty? seo.ogImage with
  | none => trivial
  | some image => exact ⟨guarded image, trivial⟩

theorem guarded_keywords (keywords : List String) :
    Html.AllGuarded (if keywords.isEmpty then []
      else [metaNamed "keywords" (", ".intercalate keywords)]) := by
  split
  · trivial
  · exact ⟨guarded_meta (by decide) (by decide) _, trivial⟩

/-- The title, the descriptions and the addresses of a page do not break its head. -/
theorem guarded_metadata : Html.AllGuarded (metadata website options seo) := by
  simp only [metadata, Html.allGuarded_append]
  have named : ∀ name value, isPlainText name = true → (metaNamed name value).Guarded :=
    fun _ value plain => guarded_meta (by decide) plain value
  have preview : ∀ name value, isPlainText name = true → (metaProperty name value).Guarded :=
    fun _ value plain => guarded_meta (by decide) plain value
  refine ⟨⟨⟨⟨⟨⟨?_, ?_⟩, ?_⟩, ?_⟩, ?_⟩, ?_⟩, ?_⟩
  · exact ⟨⟨by decide, by decide⟩, ⟨by decide, by decide⟩, ⟨by decide, by decide⟩,
      ⟨by decide, by decide, rfl, trivial⟩, named _ _ (by decide), trivial⟩
  · exact guarded_keywords seo.keywords
  · exact ⟨preview _ _ (by decide), preview _ _ (by decide), ⟨by decide, by decide⟩,
      preview _ _ (by decide), trivial⟩
  · exact guarded_previewImage seo fun image => preview _ image (by decide)
  · exact ⟨⟨by decide, by decide⟩, named _ _ (by decide), named _ _ (by decide), trivial⟩
  · exact guarded_previewImage seo fun image => named _ image (by decide)
  · exact ⟨guarded_link (by decide : [Attribute.fixed "rel" "canonical"].all _ = true) rfl _,
      named _ _ (by decide), ⟨by decide, by decide⟩, ⟨by decide, by decide⟩,
      named _ _ (by decide),
      ⟨by decide, by decide, guarded_verbatim isPlainText_criticalStyle, trivial⟩, trivial⟩

theorem endTagsOf_of_nothing {trees : List Html}
    (nothing : ∀ tree ∈ trees, tree.endTags = []) : Html.endTagsOf trees = [] := by
  refine List.eq_nil_iff_forall_not_mem.mpr fun tag member => ?_
  obtain ⟨tree, isTree, inTree⟩ := Html.mem_endTagsOf.mp member
  rw [nothing tree isTree] at inTree
  cases inTree

theorem endTagsOf_previewImage {element : String → Html}
    (nothing : ∀ image, (element image).endTags = []) :
    Html.endTagsOf (previewImage element seo) = [] := by
  refine endTagsOf_of_nothing fun tree member => ?_
  unfold previewImage at member
  rw [Option.mem_toList, Option.map_eq_some_iff] at member
  obtain ⟨image, _, rfl⟩ := member
  exact nothing image

theorem endTagsOf_keywords (keywords : List String) :
    Html.endTagsOf (if keywords.isEmpty then []
      else [metaNamed "keywords" (", ".intercalate keywords)]) = [] := by
  split <;> rfl

theorem endTagsOf_metadata :
    Html.endTagsOf (metadata website options seo) = ["title", "style"] := by
  have named (name : String) : Html.endTagsOf (previewImage (metaNamed name) seo) = [] :=
    endTagsOf_previewImage seo fun _ => rfl
  have preview (name : String) : Html.endTagsOf (previewImage (metaProperty name) seo) = [] :=
    endTagsOf_previewImage seo fun _ => rfl
  simp only [metadata, Html.endTagsOf_append, endTagsOf_keywords, named, preview]
  rfl

theorem guarded_preloadLink (address : String) : (preloadLink address).Guarded := by
  unfold preloadLink
  split
  · exact guarded_link (by decide : [Attribute.fixed "rel" "preload"].all _ = true)
      (by decide) address
  · exact guarded_link (by decide : [Attribute.fixed "rel" "preload"].all _ = true)
      (by decide) address

theorem guarded_plainStyle (address : String) : (plainStyle address).Guarded :=
  guarded_link (by decide : [Attribute.fixed "rel" "stylesheet"].all _ = true) rfl address

theorem guarded_deferredStyle (address : String) : (deferredStyle address).Guarded :=
  guarded_link (by decide : [Attribute.fixed "rel" "stylesheet"].all _ = true) (by decide) address

theorem guarded_headLinks (asset : String) (preloads : List String) :
    Html.AllGuarded (headLinks asset preloads) := by
  simp only [headLinks, Html.allGuarded_append]
  refine ⟨⟨?_, ?_⟩, ?_⟩
  · exact ⟨⟨by decide, by decide⟩, ⟨by decide, by decide⟩, trivial⟩
  · refine (Html.allGuarded_iff _).mpr fun tree member => ?_
    obtain ⟨address, _, rfl⟩ := List.mem_map.mp member
    exact guarded_preloadLink address
  · exact ⟨guarded_deferredStyle _, guarded_deferredStyle _,
      ⟨by decide, by decide, guarded_plainStyle _, guarded_plainStyle _, trivial⟩,
      ⟨by decide, by decide⟩, ⟨by decide, by decide⟩, ⟨by decide, by decide⟩, trivial⟩

theorem endTagsOf_headLinks (asset : String) (preloads : List String) :
    Html.endTagsOf (headLinks asset preloads) = ["noscript"] := by
  have noPreload : Html.endTagsOf (preloads.map preloadLink) = [] := by
    refine endTagsOf_of_nothing fun tree member => ?_
    obtain ⟨address, _, rfl⟩ := List.mem_map.mp member
    rfl
  simp only [headLinks, Html.endTagsOf_append, noPreload]
  rfl

/-! ## The body -/

theorem guarded_deferredScript (address : String) : (deferredScript address).Guarded := by
  refine ⟨by decide, ?_, trivial⟩
  rw [List.all_cons, isPlain_holding (by decide)]
  rfl

theorem guarded_settings (islands : List Island) : (settings website options islands).Guarded :=
  ⟨by decide, rfl, guarded_globalSetting (by decide) _, guarded_globalSetting (by decide) _,
    guarded_globalSetting (by decide) _, trivial⟩

theorem guarded_bodyOf (deferrals : List String) {bodies : List Html} (islands : List Island)
    (guarded : Html.AllGuarded bodies) :
    (bodyOf page website options deferrals bodies islands).Guarded := by
  refine ⟨by decide, rfl, ?_⟩
  rw [Html.allGuarded_append]
  refine ⟨⟨?_, ?_, ?_, ?_, ?_, ?_, trivial⟩, ?_⟩
  · exact ⟨by decide, by decide, by rfl, trivial⟩
  · refine ⟨by decide, ?_, ⟨by decide, by decide, guarded⟩, trivial⟩
    rw [List.all_cons, List.all_cons, List.all_cons, isPlain_fixed (by decide) (by decide),
      isPlain_holding (by decide), isPlain_holding (by decide)]
    rfl
  · refine ⟨by decide, rfl, (Html.allGuarded_iff _).mpr fun tree member => ?_⟩
    obtain ⟨line, isLine, rfl⟩ := List.mem_map.mp member
    exact guarded_verbatim (isPlainText_workerRegistration line isLine)
  · exact guarded_settings website options islands
  · exact guarded_deferredScript _
  · exact guarded_deferredScript _
  · refine (Html.allGuarded_iff _).mpr fun tree member => ?_
    obtain ⟨address, _, rfl⟩ := List.mem_map.mp member
    exact guarded_link (by decide : [Attribute.fixed "rel" "prefetch"].all _ = true) rfl address

theorem endTags_bodyOf (deferrals : List String) (bodies : List Html) (islands : List Island) :
    (bodyOf page website options deferrals bodies islands).endTags =
      "a" :: (Html.endTagsOf bodies ++
        ["main", "div", "script", "script", "script", "script", "body"]) := by
  have noDeferral : Html.endTagsOf (deferrals.map fun address =>
      Html.void "link" [.fixed "rel" "prefetch", .holding "href" address]) = [] := by
    refine endTagsOf_of_nothing fun tree member => ?_
    obtain ⟨address, _, rfl⟩ := List.mem_map.mp member
    rfl
  have noCode : Html.endTagsOf ((Script.codeLines workerRegistration).map .verbatim) = [] := by
    refine endTagsOf_of_nothing fun tree member => ?_
    obtain ⟨line, _, rfl⟩ := List.mem_map.mp member
    rfl
  simp [bodyOf, mainRegion, settings, globalSetting, deferredScript, Html.sheet, Html.endTags,
    Html.endTagsOf, noDeferral, noCode]

/-! ## The document -/

/-- The end tags of a document before those of its components. -/
def headEndTags : List String :=
  ["title", "style", "noscript", "head", "a"]

/-- The end tags of a document after those of its components. -/
def tailEndTags : List String :=
  ["main", "div", "script", "script", "script", "script", "body", "html"]

theorem guarded_documentRoot (preloads deferrals : List String) {bodies : List Html}
    (islands : List Island) (guarded : Html.AllGuarded bodies) :
    (documentRoot page website options seo preloads deferrals bodies islands).Guarded := by
  refine ⟨by decide, ?_, ⟨by decide, rfl, ?_⟩, ?_, trivial⟩
  · rw [List.all_cons, List.all_cons, isPlain_holding (by decide),
      isPlain_fixed (by decide) (by decide)]
    rfl
  · exact (Html.allGuarded_append _ _).mpr
      ⟨guarded_metadata website options seo, guarded_headLinks page.asset preloads⟩
  · exact guarded_bodyOf page website options deferrals islands guarded

theorem endTags_documentRoot (preloads deferrals : List String) (bodies : List Html)
    (islands : List Island) :
    (documentRoot page website options seo preloads deferrals bodies islands).endTags =
      headEndTags ++ Html.endTagsOf bodies ++ tailEndTags := by
  simp only [documentRoot, Html.sheet, Html.endTags, Html.endTagsOf, Html.endTagsOf_append,
    endTagsOf_metadata, endTagsOf_headLinks, endTags_bodyOf, headEndTags, tailEndTags,
    List.append_assoc, List.cons_append, List.nil_append]

/-- The end tags in the text of a document are those of its own markup, in their order. -/
theorem closings_documentText (preloads deferrals : List String) {bodies : List Html}
    (islands : List Island) (guarded : Html.AllGuarded bodies) :
    closings (documentText (documentRoot page website options seo preloads deferrals bodies
        islands)).toList =
      (headEndTags ++ Html.endTagsOf bodies ++ tailEndTags).map (· ++ ">") := by
  have kind : Closes "<!DOCTYPE html>\n".toList [] :=
    closes_of_closesNothing (by decide)
  have root := closes_renderAt 0 _
    (guarded_documentRoot page website options seo preloads deferrals islands guarded)
  rw [endTags_documentRoot] at root
  rw [documentText_eq, String.toList_append, String.toList_append]
  exact ((kind.append root).append_nothing closes_newline).closings_eq

/-! ## Regions -/

/-- The components of a page; unusable content has none. -/
def componentsOf (page : Page) : List Node :=
  match readContent page.content with
  | .ok content => content.components
  | .error _ => []

/-- The markup of the components of a page. -/
def componentMarkup (options : Options) (page : Page) : List Html :=
  (partsOf options (componentsOf page)).map (·.fragment.body)

theorem closings_html (builtIn : options.emitter = Emitter.builtIn) :
    closings (compile page website options).html.toList =
      (headEndTags ++ Html.endTagsOf (componentMarkup options page) ++ tailEndTags).map
        (· ++ ">") := by
  unfold compile componentMarkup componentsOf
  cases readContent page.content with
  | ok content =>
      exact closings_documentText page website options _ _ _ _
        (within_partsOf builtIn content.components).guarded
  | error error =>
      exact closings_documentText page website options _ _ _ _ (within_partsOf builtIn []).guarded

theorem mem_componentTags (builtIn : options.emitter = Emitter.builtIn) :
    ∀ tag ∈ Html.endTagsOf (componentMarkup options page), tag ∈ componentTags :=
  (within_partsOf builtIn (componentsOf page)).known

/-- End tags that components do not write are those of the document itself. -/
theorem countP_endTags {inside : List String} (known : ∀ tag ∈ inside, tag ∈ componentTags)
    {test : String → Bool} (apart : ∀ tag ∈ componentTags, test (tag ++ ">") = false) :
    ((headEndTags ++ inside ++ tailEndTags).map (· ++ ">")).countP test =
      ((headEndTags ++ tailEndTags).map (· ++ ">")).countP test := by
  have noneInside : (inside.map (· ++ ">")).countP test = 0 := by
    refine List.countP_eq_zero.mpr fun closing member => ?_
    obtain ⟨tag, isTag, rfl⟩ := List.mem_map.mp member
    rw [apart tag (known tag isTag)]
    exact Bool.false_ne_true
  simp only [List.map_append, List.countP_append, noneInside, Nat.add_zero]

/-- Whether an end tag begins with a word. -/
def beginsWith (word closing : String) : Bool :=
  word.toList.isPrefixOf closing.toList

/-- The regions of a document that end once. -/
def singleRegions : List String :=
  ["title>", "head>", "main>", "body>", "html>"]

theorem beginsWith_singleRegions :
    ∀ word ∈ singleRegions, '>' ∉ word.toList.dropLast ∧
      (∀ tag ∈ componentTags, beginsWith word (tag ++ ">") = false) ∧
      ((headEndTags ++ tailEndTags).map (· ++ ">")).countP (beginsWith word) = 1 := by
  decide +kernel

/-- Whether an end tag begins with the name of scripts in any case of letters. -/
def endsScript (closing : String) : Bool :=
  "script".toList.isPrefixOf (foldLetters closing.toList)

theorem endsScript_endTags :
    (∀ tag ∈ componentTags, endsScript (tag ++ ">") = false) ∧
      ((headEndTags ++ tailEndTags).map (· ++ ">")).countP endsScript = 4 := by
  decide +kernel

theorem occurrences_singleRegion (builtIn : options.emitter = Emitter.builtIn) {word : String}
    (single : word ∈ singleRegions) :
    occurrences ("</" ++ word) (compile page website options).html.toList = 1 := by
  obtain ⟨plain, apart, once⟩ := beginsWith_singleRegions word single
  have known := mem_componentTags page options builtIn
  rw [occurrences_endTag plain, closings_html page website options builtIn]
  exact (countP_endTags known apart).trans once

theorem occurrences_scriptEnd (builtIn : options.emitter = Emitter.builtIn) :
    occurrences ("</" ++ "script") (foldLetters (compile page website options).html.toList) =
      4 := by
  obtain ⟨apart, four⟩ := endsScript_endTags
  have known := mem_componentTags page options builtIn
  have sameTest : ((fun tag => "script".toList.isPrefixOf tag.toList) ∘
      fun tag => String.ofList (foldLetters tag.toList)) = endsScript := by
    funext tag
    simp only [Function.comp, String.toList_ofList, endsScript]
  rw [occurrences_endTag (by decide), closings_foldLetters, List.countP_map, sameTest,
    closings_html page website options builtIn, countP_endTags known apart, four]

/-- With the built-in renderers, no text of a page, a website or a component ends a region of
the document: the end tags in its text are those of its own markup, in their order. The
regions of the head, of the title, of the main part, of the body and of the document end once
each, and in any case of letters there are four ends of scripts. -/
theorem document_regions_end (builtIn : options.emitter = Emitter.builtIn) :
    closings (compile page website options).html.toList =
        (headEndTags ++ Html.endTagsOf (componentMarkup options page) ++ tailEndTags).map
          (· ++ ">") ∧
      (∀ tag ∈ Html.endTagsOf (componentMarkup options page), tag ∈ componentTags) ∧
      (∀ region ∈ ["</title>", "</head>", "</main>", "</body>", "</html>"],
        occurrences region (compile page website options).html.toList = 1) ∧
      occurrences "</script" (foldLetters (compile page website options).html.toList) = 4 := by
  have regions : ["</title>", "</head>", "</main>", "</body>", "</html>"] =
      singleRegions.map ("</" ++ ·) := by decide
  have script : "</script" = "</" ++ "script" := by decide
  refine ⟨closings_html page website options builtIn,
    mem_componentTags page options builtIn, ?_, ?_⟩
  · intro region member
    rw [regions] at member
    obtain ⟨word, single, rfl⟩ := List.mem_map.mp member
    exact occurrences_singleRegion page website options builtIn single
  · rw [script]
    exact occurrences_scriptEnd page website options builtIn

/-- A page whose title, slug and component hold end tags. -/
def hostilePage : Page :=
  { id := "p"
    name := some "</title></HEAD>"
    slug := some "</main>"
    content := some ("\x7b\"components\": [\x7b\"type\": \"text\", " ++
      "\"props\": \x7b\"content\": \"</script></body>\"\x7d\x7d]\x7d")
    metaTitle := none
    metaDescription := some "</sCript>"
    metaKeywords := none }

/-- A website with the page whose texts hold end tags. -/
def hostileWebsite : Website :=
  { id := "w"
    name := some "</html>"
    description := none
    language := some "</title>"
    theme := none
    pages := [hostilePage] }

/-- The end tags in the texts of a page end none of its regions. -/
theorem document_regions_end_hostile :
    (∀ region ∈ ["</title>", "</head>", "</main>", "</body>", "</html>"],
      occurrences region (compile hostilePage hostileWebsite {}).html.toList = 1) ∧
      occurrences "</script" (foldLetters (compile hostilePage hostileWebsite {}).html.toList) =
        4 := by
  have regions := document_regions_end hostilePage hostileWebsite {} rfl
  exact ⟨regions.2.2.1, regions.2.2.2⟩

end StaticSite.Page
