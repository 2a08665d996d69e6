import StaticSite.Proofs.Json.Data
import StaticSite.Proofs.Page.Handshake
import StaticSite.Proofs.Request.Content
import StaticSite.Proofs.Site.Documents
import StaticSite.Service.Handler

/-!
Contract: which submitted websites are answered with their compiled site.

Owns:
- the numbers that the JSON form of a compiled site holds, all of them in the props of islands;
- the exact condition under which a compiled site can be sent;
- content whose numbers are finite;
- requests without halves of surrogate pairs that are not part of a pair.

Does not own: which bodies hold a website (see `StaticSite.Request.Website`).
-/

namespace StaticSite.Service

open StaticSite.Component StaticSite.Json StaticSite.Page StaticSite.Request StaticSite.Site

/-! ## The numbers of a compiled page -/

theorem allFinite_optionalText (value : Option String) :
    (Island.optionalText value).allFinite = true := by
  cases value with
  | none => rfl
  | some text => rfl

theorem allFinite_island_iff (island : Island) :
    island.toJson.allFinite = true ↔ (Json.object island.props).allFinite = true := by
  rw [Island.toJson, allFinite_object_iff]
  simp only [List.forall_mem_cons, List.not_mem_nil, false_implies, implies_true, and_true,
    allFinite_text, allFinite_optionalText, true_and]

theorem allFinite_warningJson (warning : Warning) : (warningJson warning).allFinite = true := by
  rw [warningJson, allFinite_object_iff]
  intro member isMember
  rcases List.mem_append.mp isMember with isFixed | isOfComponent
  · simp only [List.mem_cons, List.not_mem_nil, or_false] at isFixed
    rcases isFixed with rfl | rfl
    · rfl
    · rfl
  · obtain ⟨id, _, rfl⟩ := Option.map_eq_some_iff.mp (Option.mem_toList.mp isOfComponent)
    rfl

theorem allFinite_seo (seo : Seo) : seo.toJson.allFinite = true := by
  rw [Seo.toJson, allFinite_object_iff]
  intro member isMember
  rcases List.mem_append.mp isMember with isFixed | isImage
  · simp only [List.mem_cons, List.not_mem_nil, or_false] at isFixed
    rcases isFixed with rfl | rfl | rfl | rfl
    · rfl
    · rfl
    · exact allFinite_texts _
    · rfl
  · obtain ⟨image, _, rfl⟩ := Option.map_eq_some_iff.mp (Option.mem_toList.mp isImage)
    rfl

/-- The only numbers of a compiled page are those in the props of its islands. -/
theorem allFinite_compiledPage_iff (page : CompiledPage) :
    page.toJson.allFinite = true ↔
      ∀ island ∈ page.islands, (Json.object island.props).allFinite = true := by
  have performance : (Json.object
      [ ("criticalCSS", .text page.performance.criticalStyle),
        ("preloadAssets", textsJson page.performance.preloads),
        ("deferAssets", textsJson page.performance.deferrals) ]).allFinite = true := by
    rw [allFinite_object_iff]
    simp only [List.forall_mem_cons, List.not_mem_nil, false_implies, implies_true, and_true,
      allFinite_text, textsJson, allFinite_texts]
  rw [CompiledPage.toJson, allFinite_object_iff]
  simp only [List.forall_mem_cons, List.not_mem_nil, false_implies, implies_true, and_true,
    true_and, allFinite_text, allFinite_array_iff, allFinite_seo, List.forall_mem_map,
    allFinite_island_iff, performance, allFinite_warningJson]

/-! ## The numbers of a compiled site -/

theorem allFinite_manifestOf (website : Website) (options : Options) :
    (manifestOf website options).allFinite = true := by
  simp [manifestOf, icon, Json.allFinite, allFiniteMembers, allFiniteItems]

theorem allFinite_file (file : File) : file.toJson.allFinite = true := rfl

theorem allFinite_sitemapEntry (options : Options) (time : UtcTime) (page : CompiledPage) :
    (sitemapEntry options time page).toJson.allFinite = true := by
  have isFinite : (sitemapEntry options time page).priority.isFinite = true := by
    -- One of two constants: that of the start page, or that of all other pages.
    unfold sitemapEntry
    dsimp only
    split
    · decide +kernel
    · decide +kernel
  simp only [SitemapEntry.toJson, Json.allFinite, allFiniteMembers, isFinite, Bool.true_and]

/-- Whether the islands of a page hold finite numbers only. -/
def HasFiniteIslands (table : Island.Table) (page : Page) : Prop :=
  ∀ node ∈ componentsOf page, isDynamic table node = true →
    (Json.object node.props).allFinite = true

instance (table : Island.Table) (page : Page) : Decidable (HasFiniteIslands table page) :=
  inferInstanceAs (Decidable (∀ node ∈ componentsOf page, _))

theorem allFinite_compile_iff (page : Page) (website : Website) (options : Options) :
    (Page.compile page website options).toJson.allFinite = true ↔
      HasFiniteIslands options.classifier page := by
  rw [allFinite_compiledPage_iff, islands_compile, List.forall_mem_map]
  constructor
  · intro finite node member dynamic
    exact finite node (List.mem_filter.mpr ⟨member, dynamic⟩)
  · intro finite node member
    obtain ⟨isComponent, dynamic⟩ := List.mem_filter.mp member
    exact finite node isComponent dynamic

/-- A compiled site can be sent exactly if the islands of all its pages hold finite numbers. -/
theorem allFinite_compileAt_iff (website : Website) (options : Options) (time : UtcTime) :
    (compileAt website options time).toJson.allFinite = true ↔
      ∀ page ∈ pagesOf website, HasFiniteIslands options.classifier page := by
  have entries : ∀ entry ∈ (compileAt website options time).sitemap,
      entry.toJson.allFinite = true := by
    intro entry member
    obtain ⟨page, _, rfl⟩ := List.mem_map.mp member
    exact allFinite_sitemapEntry options time page
  have manifest : (compileAt website options time).manifest.allFinite = true :=
    allFinite_manifestOf website options
  have pages : (compileAt website options time).pages =
      (pagesOf website).map fun page => Page.compile page website options := rfl
  rw [CompiledSite.toJson, allFinite_object_iff]
  simp only [List.forall_mem_cons, List.not_mem_nil, false_implies, implies_true, and_true,
    true_and, allFinite_text, allFinite_array_iff, List.forall_mem_map, allFinite_file, manifest,
    pages, allFinite_compile_iff]
  exact and_iff_left entries

/-! ## Content whose numbers are finite -/

/-- What is in a value whose numbers are finite has finite numbers. -/
theorem allFinite_of_occurs {part whole : Json} (occurs : Occurs part whole)
    (finite : whole.allFinite = true) : part.allFinite = true := by
  induction occurs with
  | itself => exact finite
  | inItem member _ inductionHypothesis =>
      exact inductionHypothesis ((allFinite_array_iff _).mp finite _ member)
  | inMember member _ inductionHypothesis =>
      exact inductionHypothesis ((allFinite_object_iff _).mp finite _ member)

theorem occurs_props_of_mem_components {stored : Option String} {content : Content} {node : Node}
    (isContent : readContent stored = .ok content) (member : node ∈ content.components) :
    ∃ source value, stored = some source ∧ Json.read source = .ok value ∧
      (node.props = [] ∨ Occurs (.object node.props) value) := by
  obtain ⟨source, value, items, isStored, isRead, _, occurs, isNode⟩ :=
    exists_of_mem_components isContent member
  obtain ⟨stored, isStoredNode, id, _, rfl⟩ := exists_of_mem_withUniqueIds isNode
  obtain ⟨members, index, isItem, rfl⟩ := exists_of_mem_storedNodes isStoredNode
  refine ⟨source, value, isStored, isRead, ?_⟩
  rcases props_ofMembers members index with noProps | inMembers
  · exact Or.inl noProps
  · exact Or.inr ((inMembers.trans (.inItem isItem .itself)).trans occurs)

/-- Whether the content of a page, as far as it can be read, holds finite numbers only. -/
def HasFiniteContent (page : Page) : Prop :=
  ∀ source value, page.content = some source → Json.read source = .ok value →
    value.allFinite = true

theorem HasFiniteContent.islands {page : Page} (finite : HasFiniteContent page)
    (table : Island.Table) : HasFiniteIslands table page := by
  intro node member _
  unfold componentsOf at member
  split at member
  · rename_i content isContent
    obtain ⟨source, value, isStored, isRead, isProps⟩ :=
      occurs_props_of_mem_components isContent member
    rcases isProps with noProps | occurs
    · rw [noProps]
      rfl
    · exact allFinite_of_occurs occurs (finite source value isStored isRead)
  · exact absurd member List.not_mem_nil

/-! ## Halves of surrogate pairs -/

/-- Whether a request submits a website without halves of surrogate pairs that are not part of a
pair, in the body or in the content of a page that is compiled. Such a request is read alike whatever
characters stand for them. -/
structure SubmitsWhole (request : Request) (website : Website) : Prop where
  isSubmitted : ∀ character, @submittedWebsite (.replacedBy character) request = .ok website
  areRead : ∀ page ∈ pagesOf website, ∀ character,
    @readContent (.replacedBy character) page.content = readContent page.content

/-- A website without such halves compiles alike whatever characters stand for them. -/
theorem SubmitsWhole.compileAt_eq {request : Request} {website : Website}
    (whole : SubmitsWhole request website) (options : Options) (time : UtcTime)
    (character : Nat → Char) :
    @compileAt (.replacedBy character) website options time = compileAt website options time := by
  have samePages : (pagesOf website).map
        (fun page => @Page.compile (.replacedBy character) page website options) =
      (pagesOf website).map fun page => Page.compile page website options := by
    refine List.map_congr_left fun page member => ?_
    unfold Page.compile
    rw [whole.areRead page member character]
  unfold compileAt
  rw [samePages]

/-! ## Answers -/

/-- The answer to a submitted website. -/
theorem handle_submitted {settings : Settings} {time : ZonedTime} {utc : UtcTime}
    {request : Request} {website : Website} (onRoute : routeOf request.path = some .compile)
    (isPost : request.method = "POST") (accepted : submittedWebsite request = .ok website)
    (inCalendar : time.toUtc? = some utc) (session : Storage.Session) :
    handle settings time request session =
      (session, respondJson 200 (compileAt website settings.options utc).toJson) := by
  have compiled : Site.compile website settings.options time =
      .ok (compileAt website settings.options utc) := by
    rw [Site.compile, inCalendar]
  unfold handle
  rw [onRoute, isPost]
  show withCompiledSite settings time request session _ = _
  rw [withCompiledSite, accepted]
  dsimp only
  rw [compiled]

theorem respondJson_of_not_finite {status : Nat} {value : Json}
    (infinite : ¬ value.allFinite = true) : respondJson status value = .error .numberNotFinite := by
  rw [respondJson, respondJsonWith, if_neg infinite]

theorem respondJson_of_finite {status : Nat} {value : Json} (finite : value.allFinite = true) :
    respondJson status value =
      .ok ⟨status, [("content-type", "application/json")], .json value⟩ := by
  rw [respondJson, respondJsonWith, if_pos finite]
  rfl

theorem allFinite_submitted_iff (website : Website) (settings : Settings) (utc : UtcTime) :
    (compileAt website settings.options utc).toJson.allFinite = true ↔
      ∀ page ∈ pagesOf website, HasFiniteIslands Island.Table.builtIn page :=
  allFinite_compileAt_iff website settings.options utc

/-- A website that is submitted without halves of surrogate pairs is answered with its compiled site
exactly if the dynamic components of its kept pages hold finite numbers in their props, as they do if
no content that can be read holds another number. Where they do not, the response cannot be written.
The compiled site, too, is without such halves, the same whatever characters stand for them. -/
theorem compilation_answered_iff {settings : Settings} {time : ZonedTime} {utc : UtcTime}
    {request : Request} {website : Website} (onRoute : routeOf request.path = some .compile)
    (isPost : request.method = "POST") (whole : SubmitsWhole request website)
    (inCalendar : time.toUtc? = some utc) (session : Storage.Session) :
    (handle settings time request session =
        (session, .ok ⟨200, [("content-type", "application/json")],
          .json (compileAt website settings.options utc).toJson⟩) ↔
      ∀ page ∈ pagesOf website, HasFiniteIslands Island.Table.builtIn page) ∧
    ((¬ ∀ page ∈ pagesOf website, HasFiniteIslands Island.Table.builtIn page) →
      handle settings time request session = (session, .error .numberNotFinite)) ∧
    ((∀ page ∈ pagesOf website, HasFiniteContent page) →
      ∀ page ∈ pagesOf website, HasFiniteIslands Island.Table.builtIn page) ∧
    ∀ character, @compileAt (.replacedBy character) website settings.options utc =
      compileAt website settings.options utc := by
  have finiteIff := allFinite_submitted_iff website settings utc
  rw [handle_submitted onRoute isPost (whole.isSubmitted _) inCalendar session]
  refine ⟨?_, ?_, ?_, whole.compileAt_eq settings.options utc⟩
  · constructor
    · intro answered
      apply finiteIff.mp
      by_contra infinite
      rw [respondJson_of_not_finite infinite] at answered
      exact nomatch (Prod.mk.inj answered).2
    · intro finite
      rw [respondJson_of_finite (finiteIff.mpr finite)]
  · intro infinite
    rw [respondJson_of_not_finite (fun finite => infinite (finiteIff.mp finite))]
  · intro finite page member
    exact (finite page member).islands Island.Table.builtIn

def compileRequest (body : String) : Request :=
  { method := "POST"
    path := "/api/sites/compile"
    query := []
    headers := []
    body := some body }

/-- A website whose only page has a dynamic component with a prop that is no finite number. -/
def dynamicBody : String :=
  "\x7b\"id\":\"w\",\"pages\":[\x7b\"id\":\"p\",\"content\":
    \x7b\"components\":[\x7b\"type\":\"stats\",\"props\":\x7b\"x\":NaN\x7d\x7d]\x7d\x7d]\x7d"

/-- The content of a page that has such a prop in a component that is not dynamic. -/
def staticTree : Json :=
  .object
    [ ("components", .array
        [.object [("type", .text "text"), ("props", .object [("x", .real .notANumber)])]]) ]

def staticText : String :=
  "\x7b\"components\":[\x7b\"type\":\"text\",\"props\":\x7b\"x\":NaN\x7d\x7d]\x7d"

/-- A website whose only page has the content, posted as text. -/
def staticBody : String :=
  "\x7b\"id\":\"w\",\"pages\":[\x7b\"id\":\"p\",\"content\":
    \"\x7b\\\"components\\\":[\x7b\\\"type\\\":\\\"text\\\",\\\"props\\\":\x7b\\\"x\\\":NaN\x7d\x7d]\x7d\"\x7d]\x7d"

/-- Whether a request submits a website with a property. -/
def submits (request : Request) (property : Website → Bool) : Bool :=
  match submittedWebsite request with
  | .ok website => property website
  | .error _ => false

theorem exists_of_submits {request : Request} {property : Website → Bool}
    (submitted : submits request property = true) :
    ∃ website, submittedWebsite request = .ok website ∧ property website = true := by
  unfold submits at submitted
  split at submitted
  · rename_i website accepted
    exact ⟨website, accepted, submitted⟩
  · exact absurd submitted (by decide)

/-- Whether the islands of all kept pages of a website hold finite numbers only. -/
def allIslandsFinite (website : Website) : Bool :=
  decide (∀ page ∈ pagesOf website, HasFiniteIslands Island.Table.builtIn page)

set_option maxRecDepth 10000 in
theorem read_staticBody {halves : Text.Halves} :
    Json.read staticBody = .ok (postedWebsite (.text staticText)) := by
  refine (Json.read_ofList _).trans ?_
  with_unfolding_all rfl

set_option maxRecDepth 4000 in
theorem read_staticText {halves : Text.Halves} : Json.read staticText = .ok staticTree := by
  refine (Json.read_ofList _).trans ?_
  with_unfolding_all rfl

theorem submitsWhole_static :
    SubmitsWhole (compileRequest staticBody) (acceptedWebsite staticText) where
  isSubmitted character := by
    have isBody : Text.nonempty? (compileRequest staticBody).body = some staticBody := by
      decide +kernel
    have isUtf8 : Text.Encoding.ofBytes (Text.utf8Bytes staticBody) = .utf8 := by
      decide +kernel
    have noMark : withoutMark staticBody = staticBody := by
      decide +kernel
    have isText : @bodyText? (.replacedBy character) staticBody = some staticBody := by
      unfold bodyText?
      rw [isUtf8]
      exact congrArg some noMark
    unfold submittedWebsite
    rw [isBody]
    dsimp only
    rw [isText]
    dsimp only
    unfold websiteOfText
    rw [read_staticBody]
    dsimp only
    rw [checkWebsite_postedWebsite (checkContent_text staticText)]
  areRead page member character := by
    have isPage : pagesOf (acceptedWebsite staticText) = [acceptedPage staticText] := by
      rfl
    rw [isPage, List.mem_singleton] at member
    rw [member, acceptedPage, readContent_of_read read_staticText,
      readContent_of_read read_staticText]

/-- A number that is not finite does no harm in a component that is not dynamic. -/
theorem compilation_answered_static :
    handle (Settings.ofEnvironment []) someNoon (compileRequest staticBody) (.begin [] []) =
      (.begin [] [], .ok ⟨200, [("content-type", "application/json")],
        .json (compileAt (acceptedWebsite staticText) (Settings.ofEnvironment []).options
          someUtcNoon).toJson⟩) := by
  have onRoute : routeOf (compileRequest staticBody).path = some .compile := by decide
  have inCalendar : someNoon.toUtc? = some someUtcNoon := by decide
  apply (compilation_answered_iff onRoute rfl submitsWhole_static inCalendar
    (.begin [] [])).1.mpr
  decide +kernel

/-- A number that is not finite in a dynamic component leaves a submitted website without an
answer. -/
theorem not_compilation_answered :
    ¬ ∀ (settings : Settings) (time : ZonedTime) (utc : UtcTime) (request : Request)
      (website : Website) (session : Storage.Session),
      routeOf request.path = some .compile → request.method = "POST" →
      submittedWebsite request = .ok website → time.toUtc? = some utc →
        (handle settings time request session).2 =
          .ok ⟨200, [("content-type", "application/json")],
            .json (compileAt website settings.options utc).toJson⟩ := by
  intro answered
  have submitted : submits (compileRequest dynamicBody)
      (fun website => !allIslandsFinite website) = true := by
    decide +kernel
  obtain ⟨website, accepted, notFinite⟩ := exists_of_submits submitted
  have onRoute : routeOf (compileRequest dynamicBody).path = some .compile := by decide
  have inCalendar : someNoon.toUtc? = some someUtcNoon := by decide
  have infinite : ¬ (compileAt website (Settings.ofEnvironment []).options
      someUtcNoon).toJson.allFinite = true := by
    rw [allFinite_submitted_iff]
    exact of_decide_eq_false (Bool.not_eq_true' _ ▸ notFinite)
  have answer := answered (Settings.ofEnvironment []) someNoon someUtcNoon
    (compileRequest dynamicBody) website (.begin [] []) onRoute rfl accepted inCalendar
  rw [handle_submitted onRoute rfl accepted inCalendar, respondJson_of_not_finite infinite]
    at answer
  exact nomatch answer

end StaticSite.Service
