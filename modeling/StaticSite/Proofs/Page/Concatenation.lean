import StaticSite.Proofs.Page.Assembly
import StaticSite.Proofs.Page.ComponentId
import StaticSite.Proofs.Page.Hint

/-!
Contract: pages with the components of two pages, one after the other.

Owns:
- stored content that lists components with ids of their own;
- the law that compilation takes such lists one after the other: no component depends on another
  one, but for hints that both give.

Does not own: hints that are given twice (see `StaticSite.Proofs.Page.Hint`), and components that
share ids (see `StaticSite.Proofs.Page.ComponentId`).
-/

namespace StaticSite.Page

open StaticSite.Component StaticSite.Emission StaticSite.Markup

/-! ## Components with ids of their own -/

/-- Whether an entry is an object that stores a safe id. -/
def BringsId (entry : Json) : Prop :=
  ∃ members id, entry = .object members ∧ members.lookup "id" = some (.text id) ∧ id ≠ "" ∧
    IsSafeId id

/-- Whether all entries are objects that store safe ids, and no two of them the same. -/
structure BringIds (entries : List Json) : Prop where
  safe : ∀ entry ∈ entries, BringsId entry
  distinct : (entries.map (Json.member? "id")).Nodup

theorem BringIds.left {entries more : List Json} (bring : BringIds (entries ++ more)) :
    BringIds entries := by
  have distinct := bring.distinct
  rw [List.map_append] at distinct
  exact ⟨fun entry member => bring.safe entry (List.mem_append_left more member),
    distinct.of_append_left⟩

theorem BringIds.right {entries more : List Json} (bring : BringIds (entries ++ more)) :
    BringIds more := by
  have distinct := bring.distinct
  rw [List.map_append] at distinct
  exact ⟨fun entry member => bring.safe entry (List.mem_append_right entries member),
    distinct.of_append_right⟩

/-- An object with a safe id stores the same component at every position. -/
theorem ofMembers_of_isSafeId {members : Json.Members} {id : String}
    (found : members.lookup "id" = some (.text id)) (notEmpty : id ≠ "") (safe : IsSafeId id)
    (index : Nat) :
    (Node.ofMembers members index).id = id ∧
      Node.ofMembers members index = Node.ofMembers members 0 := by
  have isId (position : Nat) : normalizeId ((members.lookup "id").getD .null) position = id := by
    rw [found, Option.getD_some, normalizeId_of_isSafeId notEmpty safe]
  constructor
  · exact isId index
  · rw [Node.ofMembers, Node.ofMembers, isId index, isId 0]

/-- The components that entries store, each taken for itself. -/
def storedAlone (entries : List Json) : List Node :=
  entries.flatMap fun entry => storedNodes [entry]

theorem storedAlone_append (entries more : List Json) :
    storedAlone (entries ++ more) = storedAlone entries ++ storedAlone more :=
  List.flatMap_append

theorem exists_storedNodes_singleton {entry : Json} (brings : BringsId entry) :
    ∃ node, storedNodes [entry] = [node] ∧ entry.member? "id" = some (.text node.id) := by
  obtain ⟨members, id, rfl, found, notEmpty, safe⟩ := brings
  refine ⟨Node.ofMembers members 0, rfl, ?_⟩
  rw [(ofMembers_of_isSafeId found notEmpty safe 0).1]
  exact found

theorem storedNodes_append_singleton (entries : List Json) {entry : Json}
    (brings : BringsId entry) :
    storedNodes (entries ++ [entry]) = storedNodes entries ++ storedNodes [entry] := by
  obtain ⟨members, id, rfl, found, notEmpty, safe⟩ := brings
  have isLast : storedNodes [Json.object members] =
      [Node.ofMembers members (0 + entries.length)] := by
    rw [(ofMembers_of_isSafeId found notEmpty safe (0 + entries.length)).2]
    rfl
  rw [isLast, storedNodes, List.zipIdx_append, List.filterMap_append]
  rfl

/-- With ids of their own, entries store the same components in a list as each for itself. -/
theorem storedNodes_eq_storedAlone {entries : List Json}
    (bring : ∀ entry ∈ entries, BringsId entry) : storedNodes entries = storedAlone entries := by
  induction entries using List.reverseRecOn with
  | nil => rfl
  | append_singleton entries entry inductionHypothesis =>
      obtain ⟨bringEntries, brings⟩ := List.forall_mem_append.mp bring
      have alone : storedAlone [entry] = storedNodes [entry] := List.flatMap_singleton _ _
      rw [storedNodes_append_singleton entries (brings entry (List.mem_singleton_self _)),
        inductionHypothesis bringEntries, storedAlone_append, alone]

theorem map_id_storedAlone {entries : List Json} (bring : ∀ entry ∈ entries, BringsId entry) :
    ((storedAlone entries).map (·.id)).map (fun id => some (Json.text id)) =
      entries.map (Json.member? "id") := by
  induction entries with
  | nil => rfl
  | cons entry others inductionHypothesis =>
      obtain ⟨brings, bringOthers⟩ := List.forall_mem_cons.mp bring
      obtain ⟨node, isNode, isId⟩ := exists_storedNodes_singleton brings
      rw [storedAlone, List.flatMap_cons, ← storedAlone, isNode, List.map_append,
        List.map_append, inductionHypothesis bringOthers]
      simp only [List.map_cons, List.map_nil, isId, List.cons_append, List.nil_append]

/-- Entries with ids of their own keep them. -/
theorem withUniqueIds_storedNodes {entries : List Json} (bring : BringIds entries) :
    withUniqueIds (storedNodes entries) = storedAlone entries := by
  have distinct := bring.distinct
  rw [← map_id_storedAlone bring.safe] at distinct
  rw [storedNodes_eq_storedAlone bring.safe, withUniqueIds_of_nodup distinct.of_map]

theorem storedAlone_ne_nil {entries : List Json} (bring : BringIds entries)
    (some : entries ≠ []) : storedAlone entries ≠ [] := by
  obtain ⟨entry, others, rfl⟩ := List.exists_cons_of_ne_nil some
  obtain ⟨node, isNode, _⟩ :=
    exists_storedNodes_singleton (bring.safe entry List.mem_cons_self)
  rw [storedAlone, List.flatMap_cons, isNode]
  exact List.cons_ne_nil _ _

/-! ## Stored lists -/

/-- Whether stored content is an object, nested no deeper than content may be, that lists some
entries and names an image for previews. -/
def Lists (source : String) (entries : List Json) (image : Option Json) : Prop :=
  ∃ members, Json.read source = .ok (.object members) ∧
    (Json.object members).depth ≤ depthLimit ∧
    members.lookup "components" = some (.array entries) ∧ members.lookup "ogImage" = image

theorem readContent_of_lists {source : String} {entries : List Json} {image : Option Json}
    (lists : Lists source entries image) :
    readContent (some source) =
      .ok { components := withUniqueIds (storedNodes entries), ogImage := ogImageOf image } := by
  obtain ⟨members, isRead, fits, listed, rfl⟩ := lists
  refine readContent_eq_ok_iff.mpr (.object isRead fits ?_)
  rw [listed, Option.getD_some]

/-! ## Pages one after the other -/

theorem endLines_eq_joinLines {lines : List String} (some : lines ≠ []) :
    Text.endLines lines = Text.joinLines lines ++ "\n" := by
  induction lines with
  | nil => exact absurd rfl some
  | cons first others inductionHypothesis =>
      cases others with
      | nil => simp [Text.endLines, Text.joinLines]
      | cons second further =>
          have later := inductionHypothesis (List.cons_ne_nil second further)
          rw [Text.endLines, List.map_cons, String.join_cons, ← Text.endLines, later,
            Text.joinLines, Text.joinLines, String.intercalate_cons_cons]
          simp only [String.append_assoc]

/-- Whether a page is put together from two others that differ from it in their components
alone: its own components are those of the first page and, behind them, those of the second. -/
structure Concatenated (page : Page) (website : Website) (options : Options)
    (first second whole : CompiledPage) : Prop where
  /-- All three documents are alike around their main regions. -/
  html_eq : ∃ firstBody secondBody,
    first.html = documentOpening page website options first.seo first.performance.preloads ++
        firstBody ++ "\n" ++
        documentClosing page website options first.performance.deferrals first.islands ∧
      second.html = documentOpening page website options second.seo second.performance.preloads ++
        secondBody ++ "\n" ++
        documentClosing page website options second.performance.deferrals second.islands ∧
      whole.html = documentOpening page website options whole.seo whole.performance.preloads ++
        (firstBody ++ "\n" ++ secondBody) ++ "\n" ++
        documentClosing page website options whole.performance.deferrals whole.islands
  css_eq : whole.css = first.css ++ "\n" ++ second.css
  /-- The scripts of the components stand in one frame. -/
  js_eq : ∃ firstScripts secondScripts,
    first.js = Text.endLines scriptHead ++ firstScripts ++ Text.endLines scriptFoot ∧
      second.js = Text.endLines scriptHead ++ secondScripts ++ Text.endLines scriptFoot ∧
      whole.js = Text.endLines scriptHead ++ (firstScripts ++ secondScripts) ++
        Text.endLines scriptFoot
  islands_eq : whole.islands = first.islands ++ second.islands
  warnings_eq : whole.warnings = first.warnings ++ second.warnings
  /-- Files that both pages ask for are asked for once, where they come first. -/
  preloads_eq : whole.performance.preloads =
    (first.performance.preloads ++ second.performance.preloads).eraseDups
  deferrals_eq : whole.performance.deferrals =
    (first.performance.deferrals ++ second.performance.deferrals).eraseDups
  seo_eq : whole.seo = first.seo ∧ whole.seo = second.seo

section Content

variable (page : Page) (website : Website) (options : Options) (image : Option String)

/-- The texts that components add to the main region of their page. -/
def bodyText (nodes : List Node) : String :=
  Text.joinLines ((nodes.map (shareOf options.emitter)).map (·.markup))

/-- The texts that components add to the script of their page. -/
def scriptsText (nodes : List Node) : String :=
  String.join ((nodes.map (shareOf options.emitter)).map (·.script))

theorem bodyText_append {nodes more : List Node} (some : nodes ≠ []) (someMore : more ≠ []) :
    bodyText options (nodes ++ more) = bodyText options nodes ++ "\n" ++ bodyText options more := by
  rw [bodyText, List.map_append, List.map_append, Text.joinLines,
    String.intercalate_append_of_ne_nil (by simp [some]) (by simp [someMore])]
  rfl

theorem scriptsText_append (nodes more : List Node) :
    scriptsText options (nodes ++ more) = scriptsText options nodes ++ scriptsText options more := by
  rw [scriptsText, List.map_append, List.map_append, String.join_append]
  rfl

theorem html_compileContent {nodes : List Node} (some : nodes ≠ []) :
    (compileContent page website options [] ⟨nodes, image⟩).html =
      documentOpening page website options (seoOf page website options image)
          (collectHints (nodes.flatMap Island.preloads)) ++
        bodyText options nodes ++ "\n" ++
        documentClosing page website options (collectHints (nodes.flatMap Island.deferrals))
          (nodes.filterMap (islandOf options.classifier)) := by
  have someMarkup : (nodes.map (shareOf options.emitter)).map (·.markup) ≠ [] := by
    simp [some]
  have markup : ((partsOf options nodes).map (·.fragment.body)).map (Html.renderAt 0) =
      (nodes.map (shareOf options.emitter)).map (·.markup) := by
    rw [← map_share_partsOf, List.map_map, List.map_map]
    rfl
  simp only [compileContent]
  rw [documentText_documentRoot, markup, endLines_eq_joinLines someMarkup, bodyText]
  simp only [String.append_assoc]

theorem js_compileContent (nodes : List Node) :
    (compileContent page website options [] ⟨nodes, image⟩).js =
      Text.endLines scriptHead ++ scriptsText options nodes ++ Text.endLines scriptFoot := by
  simp only [compileContent]
  rw [pageScript_partsOf, scriptsText]

theorem css_compileContent_append {nodes more : List Node} (some : nodes ≠ [])
    (someMore : more ≠ []) :
    (compileContent page website options [] ⟨nodes ++ more, image⟩).css =
      (compileContent page website options [] ⟨nodes, image⟩).css ++ "\n" ++
        (compileContent page website options [] ⟨more, image⟩).css := by
  have isStyle (components : List Node) :
      (compileContent page website options [] ⟨components, image⟩).css =
        Text.joinLines ((components.map (shareOf options.emitter)).map (·.style)) :=
    styleSheet_partsOf options components
  rw [isStyle, isStyle, isStyle, List.map_append, List.map_append, Text.joinLines,
    String.intercalate_append_of_ne_nil (by simp [some]) (by simp [someMore])]
  rfl

theorem concatenated_compileContent {nodes more : List Node} (some : nodes ≠ [])
    (someMore : more ≠ []) :
    Concatenated page website options
      (compileContent page website options [] ⟨nodes, image⟩)
      (compileContent page website options [] ⟨more, image⟩)
      (compileContent page website options [] ⟨nodes ++ more, image⟩) := by
  constructor
  case html_eq =>
    refine ⟨bodyText options nodes, bodyText options more,
      html_compileContent page website options image some,
      html_compileContent page website options image someMore, ?_⟩
    rw [← bodyText_append options some someMore]
    exact html_compileContent page website options image (by simp [some])
  case css_eq => exact css_compileContent_append page website options image some someMore
  case js_eq =>
    refine ⟨scriptsText options nodes, scriptsText options more,
      js_compileContent page website options image nodes,
      js_compileContent page website options image more, ?_⟩
    rw [← scriptsText_append options nodes more]
    exact js_compileContent page website options image (nodes ++ more)
  case islands_eq => exact List.filterMap_append
  case warnings_eq =>
    have areParts : partsOf options (nodes ++ more) =
        partsOf options nodes ++ partsOf options more := List.map_append
    simp only [compileContent, partWarnings, areParts, List.filterMap_append, List.nil_append]
  case preloads_eq =>
    simp only [compileContent, List.flatMap_append]
    exact collectHints_append _ _
  case deferrals_eq =>
    simp only [compileContent, List.flatMap_append]
    exact collectHints_append _ _
  case seo_eq => exact ⟨rfl, rfl⟩

end Content

def withContent (page : Page) (source : String) : Page :=
  { page with content := some source }

section Lists

variable (page : Page) (website : Website) (options : Options) {source : String}
  {entries : List Json} {image : Option Json}

theorem componentsOf_of_lists (lists : Lists source entries image) (bring : BringIds entries) :
    componentsOf (page.withContent source) = storedAlone entries := by
  have isContent : readContent (page.withContent source).content = _ := readContent_of_lists lists
  rw [componentsOf, isContent]
  exact withUniqueIds_storedNodes bring

theorem compile_of_lists (lists : Lists source entries image) (bring : BringIds entries) :
    compile (page.withContent source) website options =
      compileContent page website options [] ⟨storedAlone entries, ogImageOf image⟩ := by
  have isContent : readContent (page.withContent source).content = _ := readContent_of_lists lists
  rw [compile, isContent]
  dsimp only
  rw [withUniqueIds_storedNodes bring]
  rfl

end Lists

/-- Compilation takes lists of components one after the other. Where a page lists the entries of
two others with the same image, one list behind the other, and all entries bring ids of their own,
its compiled parts are those of the first page and then those of the second; and what a component
adds to its page depends on its own entry alone. -/
theorem compile_concatenates (page : Page) (website : Website) (options : Options)
    {firstSource secondSource source : String} {entries more : List Json} {image : Option Json}
    (first : Lists firstSource entries image) (second : Lists secondSource more image)
    (whole : Lists source (entries ++ more) image) (bring : BringIds (entries ++ more))
    (some : entries ≠ []) (someMore : more ≠ []) :
    Concatenated page website options
        (compile (page.withContent firstSource) website options)
        (compile (page.withContent secondSource) website options)
        (compile (page.withContent source) website options) ∧
      Assembled (page.withContent source) website options
        ((storedAlone (entries ++ more)).map (shareOf options.emitter))
        (compile (page.withContent source) website options) := by
  constructor
  · rw [compile_of_lists page website options first bring.left,
      compile_of_lists page website options second bring.right,
      compile_of_lists page website options whole bring, storedAlone_append]
    exact concatenated_compileContent page website options (ogImageOf image)
      (storedAlone_ne_nil bring.left some) (storedAlone_ne_nil bring.right someMore)
  · rw [← componentsOf_of_lists page whole bring]
    exact assembled_compile (page.withContent source) website options

/-- A hero with a background that it shares with others. -/
def heroEntry (id : String) : Json :=
  .object
    [ ("id", .text id), ("type", .text "hero"),
      ("props", .object [("backgroundImage", .text "/x")]) ]

def heroText (id : String) : String :=
  "\x7b\"id\":\"" ++ id ++ "\",\"type\":\"hero\"," ++
    "\"props\":\x7b\"backgroundImage\":\"/x\"\x7d\x7d"

/-- The text of content with entries that are written as given. -/
def contentText (entries : String) : String :=
  "\x7b\"components\":[" ++ entries ++ "]\x7d"

/-- A component of a type that nothing renders. -/
def marqueeEntry : Json :=
  .object [("id", .text "c"), ("type", .text "marquee")]

def marqueeText : String :=
  "\x7b\"id\":\"c\",\"type\":\"marquee\"\x7d"

def heroContent : String :=
  contentText (heroText "a")

def otherHeroContent : String :=
  contentText (heroText "b" ++ "," ++ marqueeText)

def heroesContent : String :=
  contentText (heroText "a" ++ "," ++ (heroText "b" ++ "," ++ marqueeText))

theorem lists_hero : Lists heroContent [heroEntry "a"] none :=
  ⟨[("components", .array [heroEntry "a"])], by with_unfolding_all rfl, by decide, rfl, rfl⟩

theorem lists_otherHero : Lists otherHeroContent [heroEntry "b", marqueeEntry] none :=
  ⟨[("components", .array [heroEntry "b", marqueeEntry])], by with_unfolding_all rfl, by decide,
    rfl, rfl⟩

set_option maxRecDepth 2000 in
theorem lists_heroes :
    Lists heroesContent ([heroEntry "a"] ++ [heroEntry "b", marqueeEntry]) none :=
  ⟨[("components", .array [heroEntry "a", heroEntry "b", marqueeEntry])],
    by with_unfolding_all rfl, by decide, rfl, rfl⟩

theorem bringIds_heroes : BringIds ([heroEntry "a"] ++ [heroEntry "b", marqueeEntry]) := by
  constructor
  case safe =>
    refine List.forall_mem_cons.mpr ⟨⟨_, "a", rfl, rfl, by decide, by decide⟩, ?_⟩
    refine List.forall_mem_cons.mpr ⟨⟨_, "b", rfl, rfl, by decide, by decide⟩, ?_⟩
    exact List.forall_mem_singleton.mpr ⟨_, "c", rfl, rfl, by decide, by decide⟩
  case distinct =>
    have areIds : ([heroEntry "a"] ++ [heroEntry "b", marqueeEntry]).map (Json.member? "id") =
        ["a", "b", "c"].map fun id => some (.text id) := rfl
    rw [areIds]
    refine List.Nodup.map ?_ (by decide)
    intro id other same
    exact Json.text.inj (Option.some.inj same)

/-- What that component adds to its page. -/
def marqueeShare : Share :=
  { markup := "<div id=\"component-c\" class=\"component marquee\" data-component-id=\"c\">\n" ++
      "<div class=\"unknown-component\">Unknown component: marquee</div>\n</div>"
    style := "/* Component: marquee */\n#component-c \x7b\n\x7d\n"
    script := ""
    warning := some ⟨"unknown_component", "Unknown component: marquee", some "c"⟩ }

/-- The shares of the components that both pages list end with that of the last one. -/
theorem shares_heroes :
    (storedAlone ([heroEntry "a"] ++ [heroEntry "b", marqueeEntry])).map
      (shareOf Emitter.builtIn) =
        (storedAlone [heroEntry "a", heroEntry "b"]).map (shareOf Emitter.builtIn) ++
          [marqueeShare] := by
  have lastShare : (storedAlone [marqueeEntry]).map (shareOf Emitter.builtIn) = [marqueeShare] := by
    with_unfolding_all rfl
  rw [← lastShare, ← List.map_append, ← storedAlone_append]
  rfl

/-- Two pages that ask for the same background, one after the other: the third page asks for it
once. What the last component of the second page adds comes last in the third one, too. -/
theorem compile_concatenates_heroes :
    let first := compile (statsPage.withContent heroContent) statsWebsite {}
    let second := compile (statsPage.withContent otherHeroContent) statsWebsite {}
    let whole := compile (statsPage.withContent heroesContent) statsWebsite {}
    Concatenated statsPage statsWebsite {} first second whole ∧
      second.performance.preloads = ["/x"] ∧ whole.performance.preloads = ["/x"] ∧
      (∃ before after, whole.html = before ++ marqueeShare.markup ++ "\n" ++ after) ∧
      (∃ before, whole.css = before ++ "\n" ++ marqueeShare.style) ∧
      whole.warnings = marqueeShare.warning.toList := by
  intro first second whole
  obtain ⟨concatenated, ⟨isHtml, isStyle, -, -⟩⟩ :=
    compile_concatenates statsPage statsWebsite {} lists_hero lists_otherHero lists_heroes
      bringIds_heroes (List.cons_ne_nil _ _) (List.cons_ne_nil _ _)
  have isSecond : second = _ :=
    compile_of_lists statsPage statsWebsite {} lists_otherHero bringIds_heroes.right
  have isWhole : whole = _ :=
    compile_of_lists statsPage statsWebsite {} lists_heroes bringIds_heroes
  rw [shares_heroes, List.map_append] at isHtml isStyle
  refine ⟨concatenated, ?_, ?_, ?_, ?_, ?_⟩
  · rw [isSecond]
    decide
  · rw [isWhole]
    decide
  · rw [endLines_append] at isHtml
    have isLine : Text.endLines ([marqueeShare].map (·.markup)) = marqueeShare.markup ++ "\n" :=
      rfl
    rw [isLine, ← String.append_assoc, ← String.append_assoc] at isHtml
    exact ⟨_, _, isHtml⟩
  · rw [Text.joinLines, String.intercalate_append_of_ne_nil (by decide) (by decide)] at isStyle
    exact ⟨_, isStyle⟩
  · rw [isWhole]
    decide +kernel

end StaticSite.Page
