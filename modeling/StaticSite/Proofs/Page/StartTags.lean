import StaticSite.Proofs.Emission.StartTag
import StaticSite.Proofs.Page.Assembly
import StaticSite.Proofs.Page.ElementIds
import StaticSite.Proofs.Page.Regions

/-!
Contract: the start tags of a document.

Owns:
- the start tags before and behind the markup of the components;
- the law that a document of built-in components holds these and the start tags of its components,
  and no others.

Does not own: the start tags that a component gives (see `StaticSite.Proofs.Emission.StartTag`).
-/

namespace StaticSite.Page

open StaticSite.Component StaticSite.Emission StaticSite.Markup

variable (page : Page) (website : Website) (options : Options)

/-! ## Around the components -/

/-- The start tags of a document before the markup of its components. -/
def openingTags (seo : Seo) (preloads : List String) : List Opening :=
  [ ⟨"html", [.holding "lang" website.languageOrDefault, .fixed "dir" "ltr"]⟩, ⟨"head", []⟩ ] ++
    Html.openingsOf (metadata website options seo ++ headLinks page.asset preloads) ++
    [ ⟨"body", []⟩,
      ⟨"a", [.fixed "href" "#main-content", .fixed "class" "skip-link"]⟩,
      ⟨"div",
        [.fixed "id" "app", .holding "data-page-id" page.id, .holding "data-page-slug" page.path]⟩,
      ⟨"main", [.fixed "id" "main-content", .fixed "role" "main"]⟩ ]

/-- The start tags of a document behind the markup of its components. -/
def closingTags (deferrals : List String) (islands : List Island) : List Opening :=
  Html.openingsOf (trailingElements page website options deferrals islands)

theorem holds_documentStart :
    Holds (documentStart website)
      [ ⟨"html", [.holding "lang" website.languageOrDefault, .fixed "dir" "ltr"]⟩, ⟨"head", []⟩ ] := by
  have doctype : Holds "<!DOCTYPE html>\n" [] :=
    show Finds .text "<!DOCTYPE html>\n".toList [] .text from fun _ => rfl
  have root := holds_startTag
    (show Html.Opens "html" [.holding "lang" website.languageOrDefault, .fixed "dir" "ltr"] from
      ⟨by decide, rfl⟩) (by decide)
  have head := holds_startTag (show Html.Opens "head" [] from ⟨by decide, rfl⟩) (by decide)
  have start := (doctype.append root).append_nothing holds_newline
  exact (start.append head).append_nothing holds_newline

theorem holds_skipLine :
    Holds skipLine [⟨"a", [.fixed "href" "#main-content", .fixed "class" "skip-link"]⟩] := by
  have isLine : skipLine =
      (Html.element "a" [.fixed "href" "#main-content", .fixed "class" "skip-link"]
        [.text [.literal "Skip to main content"]]).renderAt 0 ++ "\n" := by decide
  have readable : (Html.element "a" [.fixed "href" "#main-content", .fixed "class" "skip-link"]
      [.text [.literal "Skip to main content"]]).Readable :=
    ⟨⟨by decide, by decide⟩, Or.inr ⟨by decide, rfl, trivial⟩⟩
  rw [isLine]
  exact (holds_renderAt readable 0).append_nothing holds_newline

theorem holds_mainStart :
    Holds mainStart [⟨"main", [.fixed "id" "main-content", .fixed "role" "main"]⟩] := by
  have isText : mainStart =
      startTag "main" [.fixed "id" "main-content", .fixed "role" "main"] ++ "\n" := by decide
  rw [isText]
  exact (holds_startTag ⟨by decide, by decide⟩ (by decide)).append_nothing holds_newline

theorem holds_documentOpening (seo : Seo) (preloads : List String) :
    Holds (documentOpening page website options seo preloads)
      (openingTags page website options seo preloads) := by
  have lines := holds_renderLines
    ((identifies_metadata website options seo).append_nothing
      (identifies_headLinks page.asset preloads)).readable 0
  have headEnd : Holds "</head>\n<body>\n" [⟨"body", []⟩] :=
    show Finds .text "</head>\n<body>\n".toList [.opened "body".toList] .text from fun _ => rfl
  have app := holds_startTag
    (show Html.Opens "div" [.fixed "id" "app", .holding "data-page-id" page.id,
      .holding "data-page-slug" page.path] from ⟨by decide, rfl⟩) (by decide)
  have head := ((holds_documentStart website).append lines).append headEnd
  have all := (((head.append holds_skipLine).append app).append_nothing holds_newline).append
    holds_mainStart
  rw [List.append_assoc, List.append_assoc, List.append_assoc] at all
  exact all

theorem holds_documentClosing (deferrals : List String) (islands : List Island) :
    Holds (documentClosing page website options deferrals islands)
      (closingTags page website options deferrals islands) := by
  have start : Holds "</main>\n</div>\n" [] :=
    show Finds .text "</main>\n</div>\n".toList [] .text from fun _ => rfl
  have finish : Holds "</body>\n</html>\n" [] :=
    show Finds .text "</body>\n</html>\n".toList [] .text from fun _ => rfl
  have lines := holds_renderLines
    ((identifies_scripts website options page.asset islands).append_nothing
      (identifies_prefetchLinks deferrals)).readable 0
  exact (start.append lines).append_nothing finish

/-! ## The document -/

/-- The text of the markup of the components of a page, in their order. -/
def componentText : String :=
  Text.endLines ((componentMarkup options page).map (Html.renderAt 0))

/-- The start tags that the components of a page give. -/
def componentOpenings : List Opening :=
  Html.openingsOf (componentMarkup options page)

/-- A document is the text before its components, theirs, and the text behind them. -/
theorem html_eq_append :
    (compile page website options).html =
      documentOpening page website options (compile page website options).seo
          (compile page website options).performance.preloads ++
        componentText page options ++
        documentClosing page website options (compile page website options).performance.deferrals
          (compile page website options).islands := by
  have assembled := (assembled_compile page website options).html_eq
  have sameMarkup : ((componentsOf page).map (shareOf options.emitter)).map (·.markup) =
      (componentMarkup options page).map (Html.renderAt 0) := by
    rw [← map_share_partsOf, componentMarkup, List.map_map, List.map_map]
    rfl
  rw [sameMarkup] at assembled
  exact assembled

theorem holds_componentText (builtIn : options.emitter = Emitter.builtIn) :
    Holds (componentText page options) (componentOpenings page options) := by
  obtain ⟨ids, inside, _⟩ := exists_identifies_partsOf options builtIn (componentsOf page)
  have lines := holds_renderLines inside.readable 0
  rw [renderLines_eq_endLines] at lines
  exact lines

/-- The start tags of a document of built-in components are those before them, theirs, and those
behind them. -/
theorem startTags_html (builtIn : options.emitter = Emitter.builtIn) :
    startTags (compile page website options).html =
      (openingTags page website options (compile page website options).seo
          (compile page website options).performance.preloads ++
        componentOpenings page options ++
        closingTags page website options (compile page website options).performance.deferrals
          (compile page website options).islands).map Opening.read := by
  have opening := holds_documentOpening page website options
    (compile page website options).seo (compile page website options).performance.preloads
  have closing := holds_documentClosing page website options
    (compile page website options).performance.deferrals (compile page website options).islands
  have holds := (opening.append (holds_componentText page options builtIn)).append closing
  rw [html_eq_append]
  exact holds.startTags_eq

theorem exists_of_mem_openingsOf {trees : List Html} {opening : Opening}
    (member : opening ∈ Html.openingsOf trees) : ∃ tree ∈ trees, opening ∈ tree.openings := by
  induction trees with
  | nil => cases member
  | cons tree others inductionHypothesis =>
      rw [Html.openingsOf, List.mem_append] at member
      rcases member with inFirst | inOthers
      · exact ⟨tree, List.mem_cons_self, inFirst⟩
      · obtain ⟨other, isOther, inside⟩ := inductionHypothesis inOthers
        exact ⟨other, List.mem_cons_of_mem tree isOther, inside⟩

/-- Every start tag of the components of a page is given by one of them. -/
theorem exists_givenBy_of_mem_componentOpenings (builtIn : options.emitter = Emitter.builtIn)
    {opening : Opening} (member : opening ∈ componentOpenings page options) :
    ∃ node ∈ componentsOf page, GivenBy node opening := by
  obtain ⟨body, isBody, inside⟩ := exists_of_mem_openingsOf member
  obtain ⟨part, isPart, rfl⟩ := List.mem_map.mp isBody
  obtain ⟨node, isNode, rfl⟩ := List.mem_map.mp isPart
  refine ⟨node, isNode, givenBy_of_mem_openings ?_⟩
  rw [← builtIn]
  exact inside

end StaticSite.Page
