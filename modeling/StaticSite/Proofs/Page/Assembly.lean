import StaticSite.Proofs.Emission.BaseRule
import StaticSite.Proofs.Page.Handshake

/-!
Contract: how a compiled page is put together from its components.

Owns:
- the share of a component in the texts of its page;
- the document of a page up to the markup of its components, and from there on;
- the law that a page is put together from the shares of its components, in their order.

Does not own: the fragments that shares are taken from (see `StaticSite.Emission.Emitter`).
-/

namespace StaticSite.Page

open StaticSite.Component StaticSite.Emission StaticSite.Markup

/-! ## Shares -/

/-- What a component adds to the texts of its page: its markup, its style, its script in its
frame, and a warning. -/
structure Share where
  markup : String
  style : String
  script : String
  warning : Option Warning

/-- The share of a part; without a script, it adds no text to the script of the page. -/
def Part.share (part : Part) : Share :=
  { markup := part.fragment.body.renderAt 0
    style := part.fragment.css
    script := Text.endLines (part.script?.getD [])
    warning := part.fragment.warning }

def shareOf (emitter : Emitter) (node : Node) : Share :=
  Part.share ⟨node, emitter.emitOrSubstitute node⟩

theorem map_share_partsOf (options : Options) (nodes : List Node) :
    (partsOf options nodes).map Part.share = nodes.map (shareOf options.emitter) := by
  rw [partsOf, List.map_map]
  rfl

/-! ## The document around the components -/

/-- The line with the link that leads past the navigation. -/
def skipLine : String :=
  "<a href=\"#main-content\" class=\"skip-link\">Skip to main content</a>\n"

variable (page : Page) (website : Website) (options : Options)

/-- The text of a document up to the markup of its components. -/
def documentOpening (seo : Seo) (preloads : List String) : String :=
  documentStart website ++
    Html.renderLines 0 (metadata website options seo ++ headLinks page.asset preloads) ++
    "</head>\n<body>\n" ++ skipLine ++
    startTag "div"
      [.fixed "id" "app", .holding "data-page-id" page.id, .holding "data-page-slug" page.path] ++
    "\n" ++ mainStart

/-- What stands in the body of a document behind its components. -/
def trailingElements (deferrals : List String) (islands : List Island) : List Html :=
  [ .block 2 "script" [] ((Script.codeLines workerRegistration).map .verbatim),
    settings website options islands,
    deferredScript "/js/global.js",
    deferredScript (scriptAddress page.asset) ] ++
  deferrals.map fun address => .void "link" [.fixed "rel" "prefetch", .holding "href" address]

/-- The text of a document from the end of its main region on. -/
def documentClosing (deferrals : List String) (islands : List Island) : String :=
  "</main>\n</div>\n" ++
    Html.renderLines 0 (trailingElements page website options deferrals islands) ++
    "</body>\n</html>\n"

theorem renderLines_eq_endLines (trees : List Html) :
    Html.renderLines 0 trees = Text.endLines (trees.map (Html.renderAt 0)) := by
  induction trees with
  | nil => rfl
  | cons tree others inductionHypothesis =>
      rw [renderLines_cons, inductionHypothesis, List.map_cons, Text.endLines, Text.endLines,
        List.map_cons, String.join_cons]

theorem renderAt_bodyOf (deferrals : List String) (bodies : List Html) (islands : List Island) :
    (bodyOf page website options deferrals bodies islands).renderAt 0 =
      "<body>\n" ++ skipLine ++
        startTag "div"
          [.fixed "id" "app", .holding "data-page-id" page.id,
            .holding "data-page-slug" page.path] ++
        "\n" ++ mainStart ++ Html.renderLines 0 bodies ++ "</main>\n</div>\n" ++
        Html.renderLines 0 (trailingElements page website options deferrals islands) ++
        "</body>" := by
  have isOpening : startTag "body" [] ++ "\n" = "<body>\n" := by decide
  have isClosing : endTag "body" = "</body>" := by decide
  have mainEnd : "</main>" ++ "\n" ++ endTag "div" ++ "\n" = "</main>\n</div>\n" := by decide
  have isSkipLine : (Html.element "a" [.fixed "href" "#main-content", .fixed "class" "skip-link"]
      [.text [.literal "Skip to main content"]]).renderAt 0 ++ "\n" = skipLine := by decide
  rw [bodyOf, renderAt_sheet, isOpening, isClosing, List.cons_append, List.cons_append,
    renderLines_cons, isSkipLine, renderLines_cons, renderAt_sheet, renderLines_cons,
    renderAt_mainRegion, ← mainEnd]
  simp only [trailingElements, Html.renderLines, String.append_assoc, String.empty_append]

/-- A document is its opening, the markup of its components with a line feed after each, and
its closing. -/
theorem documentText_documentRoot (seo : Seo) (preloads deferrals : List String)
    (bodies : List Html) (islands : List Island) :
    documentText (documentRoot page website options seo preloads deferrals bodies islands) =
      documentOpening page website options seo preloads ++
        Text.endLines (bodies.map (Html.renderAt 0)) ++
        documentClosing page website options deferrals islands := by
  have headEnd : endTag "head" ++ "\n" ++ "<body>\n" = "</head>\n<body>\n" := by decide
  have bodyEnd : "</body>" ++ "\n" ++ endTag "html" ++ "\n" = "</body>\n</html>\n" := by decide
  rw [documentText_eq, documentRoot, renderAt_sheet, renderLines_cons, renderAt_sheet,
    renderLines_cons, renderAt_bodyOf, ← renderLines_eq_endLines]
  unfold documentOpening documentClosing documentStart
  rw [← headEnd, ← bodyEnd]
  simp only [Html.renderLines, String.append_assoc, String.empty_append]

/-! ## Styles and scripts -/

/-- Whatever renders a component, its style begins with its base rule. -/
theorem exists_css_emitOrSubstitute (emitter : Emitter) (node : Node) :
    ∃ rest, (emitter.emitOrSubstitute node).css = baseRule node ++ rest := by
  have noMore (warning : Option Warning) :
      (Emitter.substitute node warning).css = baseRule node ++ "" := by
    rw [String.append_empty, Emitter.substitute]
  unfold Emitter.emitOrSubstitute Emitter.emit
  cases emitter.renderers.lookup node.type with
  | none => exact ⟨_, noMore _⟩
  | some renderer =>
      cases isRendered : renderer node with
      | ok fragment =>
          simp only [isRendered]
          exact ⟨fragment.css, rfl⟩
      | error cause =>
          simp only [isRendered]
          exact ⟨_, noMore _⟩

theorem css_emitOrSubstitute_ne_empty (emitter : Emitter) (node : Node) :
    (emitter.emitOrSubstitute node).css ≠ "" := by
  obtain ⟨rest, isStyle⟩ := exists_css_emitOrSubstitute emitter node
  intro isEmpty
  have isNil := congrArg String.toList (isStyle.symm.trans isEmpty)
  rw [String.toList_append, toList_baseRule] at isNil
  simp at isNil

theorem styleSheet_partsOf (nodes : List Node) :
    styleSheet (partsOf options nodes) =
      Text.joinLines ((nodes.map (shareOf options.emitter)).map (·.style)) := by
  have allKept : ∀ css ∈ (partsOf options nodes).map (·.fragment.css), (css != "") = true := by
    intro css member
    rw [partsOf, List.map_map] at member
    obtain ⟨node, _, rfl⟩ := List.mem_map.mp member
    exact bne_iff_ne.mpr (css_emitOrSubstitute_ne_empty options.emitter node)
  rw [styleSheet, List.filter_eq_self.mpr allKept, ← map_share_partsOf, List.map_map]
  rfl

theorem endLines_append (lines others : List String) :
    Text.endLines (lines ++ others) = Text.endLines lines ++ Text.endLines others := by
  rw [Text.endLines, List.map_append, String.join_append]
  rfl

theorem endLines_flatten_scripts (parts : List Part) :
    Text.endLines (parts.filterMap Part.script?).flatten =
      String.join ((parts.map Part.share).map (·.script)) := by
  induction parts with
  | nil => rfl
  | cons part others inductionHypothesis =>
      rw [List.map_cons, List.map_cons, String.join_cons, ← inductionHypothesis, Part.share]
      cases isScript : part.script? with
      | none => rw [List.filterMap_cons_none isScript, Option.getD_none]; rfl
      | some script =>
          rw [List.filterMap_cons_some isScript, List.flatten_cons, endLines_append,
            Option.getD_some]

theorem pageScript_partsOf (nodes : List Node) :
    pageScript ((partsOf options nodes).filterMap Part.script?) =
      Text.endLines scriptHead ++
        String.join ((nodes.map (shareOf options.emitter)).map (·.script)) ++
        Text.endLines scriptFoot := by
  rw [pageScript, endLines_append, endLines_append, endLines_flatten_scripts, map_share_partsOf]

/-! ## The page -/

/-- Whether the texts of a compiled page are put together from shares, in their order. -/
structure Assembled (shares : List Share) (compiled : CompiledPage) : Prop where
  html_eq : compiled.html =
    documentOpening page website options compiled.seo compiled.performance.preloads ++
      Text.endLines (shares.map (·.markup)) ++
      documentClosing page website options compiled.performance.deferrals compiled.islands
  css_eq : compiled.css = Text.joinLines (shares.map (·.style))
  js_eq : compiled.js =
    Text.endLines scriptHead ++ String.join (shares.map (·.script)) ++ Text.endLines scriptFoot
  warnings_eq : compiled.warnings =
    contentWarnings page.content ++ shares.filterMap (·.warning)

theorem assembled_compileContent (content : Content) :
    Assembled page website options (content.components.map (shareOf options.emitter))
      (compileContent page website options (contentWarnings page.content) content) := by
  have parts := map_share_partsOf options content.components
  constructor
  case html_eq =>
    rw [← parts, List.map_map]
    refine (documentText_documentRoot page website options _ _ _ _ _).trans ?_
    rw [List.map_map]
    rfl
  case css_eq => exact styleSheet_partsOf options content.components
  case js_eq => exact pageScript_partsOf options content.components
  case warnings_eq =>
    rw [← parts, List.filterMap_map]
    rfl

theorem assembled_compile :
    Assembled page website options ((componentsOf page).map (shareOf options.emitter))
      (compile page website options) := by
  obtain ⟨content, isCompiled, isContent⟩ := exists_compileContent_eq page website options
  rw [isCompiled, ← isContent]
  exact assembled_compileContent page website options content

end StaticSite.Page
