import StaticSite.Proofs.Json.Order
import StaticSite.Proofs.Page.Content
import StaticSite.Request.Website
import StaticSite.Site.Compile

/-!
Contract: content that is posted as a tree of values and content that is posted as JSON text.

Owns:
- checks with the same outcome: related values, or violations of one kind in one place;
- websites that differ in how the content of their pages is posted;
- the law that such websites are accepted alike and compile to the same site, unless a text of a
  tree has two halves of a surrogate pair in a row;
- a tree with such a text, for which the law fails.

What stands in texts for halves that are not part of a pair is left open: the law holds of every
choice, and with it of texts that keep their halves.

Does not own: reading back what was written (see `StaticSite.Proofs.Json.Writing`).
-/

namespace StaticSite.Request

open StaticSite.Page

/-! ## Checks with the same outcome -/

namespace Checked

/-- Whether two checks both accept, with related values, or both reject for the same causes in the
same places. -/
def Agree {Value Other : Type} (related : Value → Other → Prop) :
    Checked Value → Checked Other → Prop
  | accepted value, accepted other => related value other
  | rejected violations, rejected others =>
      violations.map (fun violation => (violation.location, violation.cause)) =
        others.map fun violation => (violation.location, violation.cause)
  | _, _ => False

variable {Value Other Result OtherResult : Type}

theorem Agree.refl {related : Value → Value → Prop} (reflexive : ∀ value, related value value)
    (check : Checked Value) : Agree related check check := by
  cases check with
  | accepted value => exact reflexive value
  | rejected violations => rfl

theorem Agree.imp {related weaker : Value → Other → Prop}
    (implies : ∀ value other, related value other → weaker value other)
    {check : Checked Value} {otherCheck : Checked Other} (agree : Agree related check otherCheck) :
    Agree weaker check otherCheck := by
  cases check with
  | accepted value =>
      cases otherCheck with
      | accepted other => exact implies value other agree
      | rejected _ => exact agree.elim
  | rejected violations =>
      cases otherCheck with
      | accepted _ => exact agree.elim
      | rejected others => exact agree

theorem Agree.of_eq {check other : Checked Value} (same : check = other) :
    Agree Eq check other := by
  rw [same]
  exact Agree.refl (fun _ => rfl) other

/-- Checks of two parts agree where the checks of the parts do. -/
theorem Agree.seq {related : Value → Other → Prop} {results : Result → OtherResult → Prop}
    {function : Checked (Value → Result)} {otherFunction : Checked (Other → OtherResult)}
    {check : Checked Value} {otherCheck : Checked Other}
    (functions : Agree (fun first second => ∀ value other, related value other →
      results (first value) (second other)) function otherFunction)
    (values : Agree related check otherCheck) :
    Agree results (function <*> check) (otherFunction <*> otherCheck) := by
  cases function with
  | accepted first =>
      cases otherFunction with
      | rejected _ => exact functions.elim
      | accepted second =>
          cases check with
          | accepted value =>
              cases otherCheck with
              | accepted other => exact functions value other values
              | rejected _ => exact values.elim
          | rejected violations =>
              cases otherCheck with
              | accepted _ => exact values.elim
              | rejected others => exact values
  | rejected first =>
      cases otherFunction with
      | accepted _ => exact functions.elim
      | rejected second =>
          cases check with
          | accepted value =>
              cases otherCheck with
              | accepted other => exact functions
              | rejected _ => exact values.elim
          | rejected violations =>
              cases otherCheck with
              | accepted _ => exact values.elim
              | rejected others =>
                  simp only [Agree] at functions values
                  change (first ++ violations).map _ = (second ++ others).map _
                  rw [List.map_append, List.map_append, functions, values]

/-- Seen from the whole, checks of one part agree where they do by themselves. -/
theorem Agree.within {related : Value → Other → Prop} {check : Checked Value}
    {other : Checked Other} (agree : Agree related check other) (step : Step) :
    Agree related (check.within step) (other.within step) := by
  cases check with
  | accepted value =>
      cases other with
      | accepted _ => exact agree
      | rejected _ => exact agree.elim
  | rejected violations =>
      cases other with
      | accepted _ => exact agree.elim
      | rejected others =>
          have sameInside := congrArg (List.map fun report : List Step × Cause =>
            (step :: report.1, report.2)) agree
          rw [List.map_map, List.map_map] at sameInside
          simp only [Checked.within, Agree, List.map_map]
          exact sameInside

/-- Checks of the items of two lists agree where those of items in the same places do. -/
theorem Agree.items {related : Value → Other → Prop} {check : Json → Checked Value}
    {otherCheck : Json → Checked Other} {values others : List Json}
    (agree : List.Forall₂ (fun value other => Agree related (check value) (otherCheck other))
      values others) (position : Nat) :
    Agree (List.Forall₂ related) (Checked.items check position values)
      (Checked.items otherCheck position others) := by
  induction agree generalizing position with
  | nil => exact List.Forall₂.nil
  | cons first _ inductionHypothesis =>
      refine Agree.seq (Agree.seq ?_ (first.within (.item position)))
        (inductionHypothesis (position + 1))
      exact fun _ _ heads _ _ tails => .cons heads tails

end Checked

open Checked

/-! ## Members that agree -/

/-- Whether two objects have the same members but for one. -/
def AgreeApartFrom (name : String) (members others : Json.Members) : Prop :=
  ∀ other ≠ name, members.lookup other = others.lookup other

section

variable {apart : String} {members others : Json.Members}
  (same : AgreeApartFrom apart members others)

include same

theorem agree_requiredText (rule : TextRule) {name : String} (differs : name ≠ apart) :
    Agree Eq (requiredText rule name members) (requiredText rule name others) := by
  rw [requiredText, requiredText, same name differs]
  split
  · exact Agree.of_eq rfl
  · -- The violation names the whole object, of which one member may differ.
    exact rfl

theorem givenMember_eq {names : List String} (differ : apart ∉ names) :
    givenMember names members = givenMember names others := by
  rw [givenMember, givenMember]
  induction names with
  | nil => rfl
  | cons name more inductionHypothesis =>
      obtain ⟨differs, differLater⟩ := not_or.mp (List.mem_cons.not.mp differ)
      rw [List.findSome?_cons, List.findSome?_cons, same name (Ne.symm differs),
        inductionHypothesis differLater]

theorem agree_optionalText {names : List String} (differ : apart ∉ names)
    (default : Option String) :
    Agree Eq (optionalText names default members) (optionalText names default others) := by
  rw [optionalText, optionalText, givenMember_eq same differ]
  exact Agree.of_eq rfl

theorem agree_textOr {name : String} (differs : name ≠ apart) (default : String) :
    Agree Eq (textOr name default members) (textOr name default others) := by
  rw [textOr, textOr, same name differs]
  exact Agree.of_eq rfl

end

/-! ## Content -/

/-- Whether a tree of values and a text are the same content: the text is read as the tree, which
is an object or a list, and the numbers of the tree read back from their texts. -/
structure IsTreeOf [Text.Halves] (tree : Json) (text : String) : Prop where
  isRead : Json.read text = .ok tree
  isContainer : tree.children?.isSome = true
  readBack : ∀ number ∈ tree.reals, Json.ReadsBack number

section Halves

variable {halves : Text.Halves}

theorem checkContent_text (text : String) : checkContent (.text text) = .accepted text :=
  rfl

theorem IsTreeOf.checkContent_eq {tree : Json} {text : String} (same : IsTreeOf tree text)
    (apart : ∀ held, Json.HoldsText held tree → Json.KeepsHalvesApart held.toList) :
    ∃ stored, checkContent tree = .accepted stored ∧ Json.read stored = .ok tree := by
  have readBack := Json.read_write_asciiLayout (Json.isRegular_of_read same.isRead) same.readBack
    apart (Json.depth_le_of_read same.isRead)
  have isContainer := same.isContainer
  cases tree with
  | array items => exact ⟨_, rfl, readBack⟩
  | object members => exact ⟨_, rfl, readBack⟩
  | null | bool _ | int _ | real _ | text _ => cases isContainer

/-! ## Pages and websites -/

/-- Whether two pages differ in their stored text alone, which holds the same content. -/
structure SameContent [Text.Halves] (page other : Page) : Prop where
  isPage : other = { page with content := other.content }
  sameContent : readContent page.content = readContent other.content

/-- Whether two websites differ in the stored texts of their pages alone, which hold the same
content. -/
structure SameContents [Text.Halves] (website other : Website) : Prop where
  isWebsite : other = { website with pages := other.pages }
  samePages : List.Forall₂ SameContent website.pages other.pages

/-- Whether two posted pages are the same but for content that the one gives as a tree and the
other as text, where no text in the tree has two halves in a row that would pair. -/
inductive PostsPage [Text.Halves] : Json → Json → Prop where
  | same (page : Json) : PostsPage page page
  | tree {members others : Json.Members} {tree : Json} {text : String}
      (same : AgreeApartFrom "content" members others)
      (isTree : members.lookup "content" = some tree)
      (isText : others.lookup "content" = some (.text text)) (treeOf : IsTreeOf tree text)
      (apart : ∀ held, Json.HoldsText held tree → Json.KeepsHalvesApart held.toList) :
      PostsPage (.object members) (.object others)

/-- Whether two posted websites are the same but for pages whose content the one gives as trees and
the other as text. -/
inductive PostsWebsite [Text.Halves] : Json → Json → Prop where
  | pages {members others : Json.Members} {pages otherPages : List Json}
      (same : AgreeApartFrom "pages" members others)
      (arePages : members.lookup "pages" = some (.array pages))
      (areOtherPages : others.lookup "pages" = some (.array otherPages))
      (posted : List.Forall₂ PostsPage pages otherPages) :
      PostsWebsite (.object members) (.object others)

theorem SameContent.refl (page : Page) : SameContent page page :=
  ⟨rfl, rfl⟩

/-- Pages that are posted with a tree and with its text are accepted alike, with the same content. -/
theorem agree_checkPage {page other : Json} (posted : PostsPage page other) :
    Agree SameContent (checkPage page) (checkPage other) := by
  cases posted with
  | same => exact Agree.refl SameContent.refl _
  | @tree members others tree text same isTree isText treeOf apart =>
      obtain ⟨stored, isStored, readStored⟩ := treeOf.checkContent_eq apart
      have contents : Agree (fun first second => readContent (some first) = readContent (some second))
          (pageContent members) (pageContent others) := by
        rw [pageContent, pageContent, isTree, isText]
        refine Agree.within ?_ _
        rw [isStored, checkContent_text]
        change readContent (some stored) = readContent (some text)
        rw [readContent_of_read readStored, readContent_of_read treeOf.isRead]
      refine Agree.seq (Agree.seq (Agree.seq (Agree.seq (Agree.seq (Agree.seq (Agree.seq ?_
        (agree_requiredText same pageIdRule (by decide)))
        (agree_optionalText same (by decide) none)) (agree_optionalText same (by decide) none))
        contents) (agree_optionalText same (by decide) none))
        (agree_optionalText same (by decide) none)) (agree_optionalText same (by decide) none)
      rintro id _ rfl name _ rfl slug _ rfl content otherContent sameContent title _ rfl
        description _ rfl keywords _ rfl
      exact ⟨rfl, sameContent⟩

/-- Websites that are posted with trees and with their texts are accepted alike, with the same
contents. -/
theorem agree_checkWebsite {website other : Json} (posted : PostsWebsite website other) :
    Agree SameContents (checkWebsite website) (checkWebsite other) := by
  cases posted with
  | @pages members others pages otherPages same arePages areOtherPages posted =>
      have sameLength := posted.length_eq
      have checked : Agree (List.Forall₂ SameContent) (websitePages members)
          (websitePages others) := by
        rw [websitePages, websitePages, arePages, areOtherPages]
        refine Agree.within ?_ _
        dsimp only
        rw [sameLength]
        split
        · rfl
        · exact Agree.items (posted.imp fun _ _ postedPage => agree_checkPage postedPage) 0
      refine Agree.seq (Agree.seq (Agree.seq (Agree.seq (Agree.seq (Agree.seq ?_
        (agree_requiredText same websiteIdRule (by decide)))
        (agree_optionalText same (by decide) none)) (agree_optionalText same (by decide) none))
        (agree_optionalText same (by decide) (some "en"))) (agree_textOr same (by decide) "light"))
        checked
      rintro id _ rfl name _ rfl description _ rfl language _ rfl theme _ rfl sitePages otherPages
        samePages
      exact ⟨rfl, samePages⟩

/-! ## What they compile to -/

theorem SameContent.compile_eq {page other : Page} (same : SameContent page other)
    {website otherWebsite : Website} (sameWebsite : SameContents website otherWebsite)
    (options : Options) :
    Page.compile page website options = Page.compile other otherWebsite options := by
  rw [Page.compile, Page.compile, same.sameContent, same.isPage, sameWebsite.isWebsite]
  rfl

/-- Pages that differ in their stored texts alone are kept alike. -/
theorem keptPages_forall₂ {pages others : List Page} (same : List.Forall₂ SameContent pages others)
    (reserved : Site.Reserved) :
    List.Forall₂ SameContent (Site.keptPages reserved pages) (Site.keptPages reserved others) := by
  induction same generalizing reserved with
  | nil => exact .nil
  | @cons page other _ _ first _ inductionHypothesis =>
      have sameTest : reserved.admits other = reserved.admits page := by
        rw [first.isPage]
        rfl
      have sameReserved : reserved.add other = reserved.add page := by
        rw [first.isPage]
        rfl
      rw [Site.keptPages, Site.keptPages, sameTest, sameReserved]
      split
      · exact .cons first (inductionHypothesis _)
      · exact inductionHypothesis _

/-- Websites that differ in the stored texts of their pages alone compile to the same site. -/
theorem SameContents.compileAt_eq {website other : Website} (same : SameContents website other)
    (options : Options) (time : Site.UtcTime) :
    Site.compileAt website options time = Site.compileAt other options time := by
  have kept : List.Forall₂ SameContent (Site.pagesOf website) (Site.pagesOf other) :=
    keptPages_forall₂ same.samePages .none
  have compiledPages : (Site.pagesOf website).map (fun page => Page.compile page website options) =
      (Site.pagesOf other).map fun page => Page.compile page other options :=
    Related.map_eq_map_iff.mpr (kept.imp fun _ _ samePage => samePage.compile_eq same options)
  rw [Site.compileAt, Site.compileAt, compiledPages]
  generalize (Site.pagesOf other).map (fun page => Page.compile page other options) = pages
  rw [same.isWebsite]
  rfl

/-- Posting a tree is the same as posting its text, unless one of its texts has two halves of a
surrogate pair in a row that are not that pair. Websites that are the same but for pages whose
content the one posts as trees and the other as texts are accepted alike, or rejected for the same
causes in the same places; and those that are accepted compile, page by page and as sites, to the
same, with any options and at any time. -/
theorem posted_trees_compile_alike {website other : Json} (posted : PostsWebsite website other) :
    Agree (fun accepted acceptedOther => ∀ options,
        List.Forall₂ (fun page otherPage =>
          Page.compile page accepted options = Page.compile otherPage acceptedOther options)
          accepted.pages acceptedOther.pages ∧
        ∀ time, Site.compile accepted options time = Site.compile acceptedOther options time)
      (checkWebsite website) (checkWebsite other) := by
  refine Agree.imp (fun accepted acceptedOther same options => ⟨?_, fun time => ?_⟩)
    (agree_checkWebsite posted)
  · exact same.samePages.imp fun _ _ samePage => samePage.compile_eq same options
  · rw [Site.compile, Site.compile]
    cases time.toUtc? with
    | none => rfl
    | some utc => exact congrArg Except.ok (same.compileAt_eq options utc)

end Halves

/-! ## Postings that keep their halves -/

/-- A component with a letter beyond ASCII, a character beyond the first plane, a control character,
marks that need escapes, the first half of a surrogate pair, numbers, and empty containers. -/
def postedTree [Text.Halves] : Json :=
  .object
    [ ("components", .array
        [ .object
            [ ("type", .text "stats"),
              ("props", .object
                [ ("title", .text "é😀\x01\"\\"),
                  ("half", .text (String.ofList [Text.Halves.character 0xd800])),
                  ("share", .real (.ofDecimal false 25 (-2))),
                  ("count", .int 12345678901234567890), ("none", .array []),
                  ("more", .object []) ]) ] ]) ]

/-- The same component as JSON text, spelled in another way than it would be written. -/
def postedText : String :=
  "\x7b\"components\":[\x7b\"type\":\"stats\",\"props\":\x7b
    \"title\":\"é\\uD83d\\uDE00\\u0001\\\"\\\\\",\"half\":\"\\uD800\",\"share\": 2.5e-1,
    \"count\":12345678901234567890, \"none\":[ ],\"more\":\x7b\x7d\x7d\x7d]\x7d"

/-- A component whose id is the first half of a surrogate pair and after it a second half. -/
def splitTree [Text.Halves] : Json :=
  .object
    [ ("components", .array
        [ .object
            [ ("type", .text "stats"),
              ("id", .text (String.ofList
                [Text.Halves.character 0xd800, Text.Halves.character 0xdc00])) ] ]) ]

/-- The same component as JSON text, in which only the second half is escaped. -/
def splitText [Text.Halves] : String :=
  String.ofList
    ("\x7b\"components\":[\x7b\"type\":\"stats\",\"id\":\"".toList ++
      Text.Halves.character 0xd800 :: "\\udc00\"\x7d]\x7d".toList)

def postedWebsite (content : Json) : Json :=
  .object
    [ ("id", .text "w"),
      ("pages", .array [.object [("id", .text "p"), ("content", content)]]) ]

/-- The page that is accepted with the given stored text. -/
def acceptedPage (stored : String) : Page where
  id := "p"
  name := none
  slug := none
  content := some stored
  metaTitle := none
  metaDescription := none
  metaKeywords := none

def acceptedWebsite (stored : String) : Website where
  id := "w"
  name := none
  description := none
  language := some "en"
  theme := some "light"
  pages := [acceptedPage stored]

theorem checkWebsite_postedWebsite {halves : Text.Halves} {content : Json} {stored : String}
    (isStored : checkContent content = .accepted stored) :
    checkWebsite (postedWebsite content) = .accepted (acceptedWebsite stored) := by
  have pageStored : pageContent [("id", .text "p"), ("content", content)] = .accepted stored := by
    change (checkContent content).within _ = _
    rw [isStored]
    rfl
  have isPage : checkPage (.object [("id", .text "p"), ("content", content)]) =
      .accepted (acceptedPage stored) := by
    rw [checkPage, pageOfMembers, pageStored]
    rfl
  have arePages : websitePages [("id", .text "w"),
      ("pages", .array [.object [("id", .text "p"), ("content", content)]])] =
      .accepted (acceptedWebsite stored).pages := by
    change Checked.within _ (Checked.items checkPage 0 _) = _
    rw [Checked.items, isPage]
    rfl
  rw [postedWebsite, checkWebsite, websiteOfMembers, arePages]
  rfl

/-- The ids of the islands that a page with the posted content is compiled to, if it is accepted and
read. -/
def islandIds [Text.Halves] (content : Json) : Option (List String) :=
  match checkContent content with
  | .accepted stored =>
      match readContent (some stored) with
      | .ok read => some ((read.components.filterMap (islandOf Island.Table.builtIn)).map (·.id))
      | .error _ => none
  | .rejected _ => none

theorem exists_of_islandIds {halves : Text.Halves} {content : Json} {ids : List String}
    (isPosted : islandIds content = some ids) :
    ∃ stored, checkContent content = .accepted stored ∧
      ∀ page website, page.content = some stored →
        (Page.compile page website {}).islands.map (·.id) = ids := by
  unfold islandIds at isPosted
  split at isPosted
  · rename_i stored isStored
    split at isPosted
    · rename_i read isRead
      refine ⟨stored, isStored, fun page website isContent => ?_⟩
      rw [Page.compile, isContent, isRead]
      exact Option.some.inj isPosted
    · cases isPosted
  · cases isPosted

section Kept

attribute [local instance] Text.Halves.kept

set_option maxRecDepth 4000 in
theorem isTreeOf_postedText : IsTreeOf postedTree postedText where
  isRead := by
    refine (Json.read_ofList _).trans ?_
    with_unfolding_all rfl
  isContainer := rfl
  readBack := by decide +kernel

theorem isTreeOf_splitText : IsTreeOf splitTree splitText where
  isRead := by
    refine (Json.read_ofList _).trans ?_
    with_unfolding_all rfl
  isContainer := rfl
  readBack := by decide +kernel

theorem keepsHalvesApart_postedTree {held : String} (holds : Json.HoldsText held postedTree) :
    Json.KeepsHalvesApart held.toList := by
  have notInt (value : Int) : ¬ Json.HoldsText held (.int value) :=
    Json.not_holdsText_of_scalar rfl rfl held
  have notReal (value : Binary64) : ¬ Json.HoldsText held (.real value) :=
    Json.not_holdsText_of_scalar rfl rfl held
  have listed : held ∈
      [ "components", "type", "stats", "props", "title", "é😀\x01\"\\", "half",
        String.ofList [Text.Halves.character 0xd800], "share", "count", "none", "more" ] := by
    simpa [postedTree, Json.holdsText_object_iff, Json.holdsText_array_iff,
      Json.holdsText_text_iff, or_and_right, exists_or, and_assoc, or_assoc, notInt, notReal]
      using holds
  clear holds notInt notReal
  revert held
  decide

/-- A page, posted with a component as a tree and as text, is accepted either way and compiles to
the same site, with halves of surrogate pairs kept as they are. -/
theorem posted_trees_compile_alike_stats :
    ∃ accepted acceptedOther, checkWebsite (postedWebsite postedTree) = .accepted accepted ∧
      checkWebsite (postedWebsite (.text postedText)) = .accepted acceptedOther ∧
      ∀ options time,
        Site.compile accepted options time = Site.compile acceptedOther options time := by
  have samePage : AgreeApartFrom "content" [("id", .text "p"), ("content", postedTree)]
      [("id", .text "p"), ("content", .text postedText)] := by
    intro name differs
    simp only [List.lookup_cons, beq_eq_false_iff_ne.mpr differs]
  have sameWebsite (pages otherPages : Json) : AgreeApartFrom "pages"
      [("id", .text "w"), ("pages", pages)] [("id", .text "w"), ("pages", otherPages)] := by
    intro name differs
    simp only [List.lookup_cons, beq_eq_false_iff_ne.mpr differs]
  have posted : PostsWebsite (postedWebsite postedTree) (postedWebsite (.text postedText)) :=
    .pages (sameWebsite _ _) rfl rfl
      (.cons (.tree samePage rfl rfl isTreeOf_postedText fun _ => keepsHalvesApart_postedTree) .nil)
  obtain ⟨stored, isStored, -⟩ :=
    isTreeOf_postedText.checkContent_eq fun _ => keepsHalvesApart_postedTree
  have accepted := checkWebsite_postedWebsite isStored
  have acceptedText : checkWebsite (postedWebsite (.text postedText)) =
      .accepted (acceptedWebsite postedText) :=
    checkWebsite_postedWebsite (checkContent_text postedText)
  refine ⟨_, _, accepted, acceptedText, fun options => ?_⟩
  -- The law is applied to names, so that nothing is evaluated to state its conclusion.
  generalize postedWebsite postedTree = website at posted accepted
  generalize postedWebsite (.text postedText) = other at posted acceptedText
  have alike := posted_trees_compile_alike posted
  rw [accepted, acceptedText] at alike
  exact (alike options).2

/-- Not every tree compiles like every text of it. If two halves of a surrogate pair stand in a row,
the tree is stored with both as escapes, which are then read as the pair. -/
theorem not_posted_trees_compile_alike :
    ¬ ∀ (tree : Json) (text : String), IsTreeOf tree text → ∀ accepted acceptedOther,
      checkWebsite (postedWebsite tree) = .accepted accepted →
      checkWebsite (postedWebsite (.text text)) = .accepted acceptedOther → ∀ options,
        List.Forall₂ (fun page otherPage =>
          Page.compile page accepted options = Page.compile otherPage acceptedOther options)
          accepted.pages acceptedOther.pages := by
  intro alike
  have ofTree : islandIds splitTree = some ["-"] := by decide +kernel
  have ofText : islandIds (.text splitText) = some ["--"] := by decide +kernel
  obtain ⟨stored, isStored, treeIds⟩ := exists_of_islandIds ofTree
  obtain ⟨storedText, isStoredText, textIds⟩ := exists_of_islandIds ofText
  have samePages := alike splitTree splitText isTreeOf_splitText _ _
    (checkWebsite_postedWebsite isStored) (checkWebsite_postedWebsite isStoredText) {}
  obtain ⟨samePage, -⟩ := List.forall₂_cons.mp samePages
  have ids := treeIds (acceptedPage stored) (acceptedWebsite stored) rfl
  rw [samePage, textIds (acceptedPage storedText) (acceptedWebsite storedText) rfl] at ids
  exact absurd ids (by decide)

end Kept

end StaticSite.Request
