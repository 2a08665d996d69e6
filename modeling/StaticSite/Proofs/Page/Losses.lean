import StaticSite.Proofs.Emission.Note
import StaticSite.Proofs.Page.DistinctIds
import StaticSite.Proofs.Page.StartTags
import StaticSite.Proofs.Related

/-!
Contract: what a page loses of its content, and what its warnings tell about it.

Owns:
- the containers and the notes in a document;
- the law that a document has a container for every component and a note for every warning about
  one, and no others;
- the law that a page without warnings has a container for every entry that is an object, in their
  order, and no note;
- an entry that disappears without a warning.

Does not own: content that cannot be used at all (see `StaticSite.Proofs.Page.Recovery`).
-/

namespace StaticSite.Page

open StaticSite.Component StaticSite.Emission StaticSite.Markup

variable (page : Page) (website : Website) (options : Options)

/-! ## Containers and notes of a document -/

/-- The start tags of the containers in a document. -/
def containersIn (html : String) : List StartTag :=
  (startTags html).filter isContainer

/-- The start tags of the notes in a document. -/
def notesIn (html : String) : List StartTag :=
  (startTags html).filter isNote

/-! ## Around the components -/

/-- Whether an attribute can mark neither a container nor a note, whatever its value. -/
def isUnmarked : Attribute → Bool
  | .valued name _ => foldedName name.toList ∉ ["class", "data-component-id"]
  | .bare _ => true

/-- Whether no attribute of some start tags can mark a container or a note. -/
def areUnmarked (openings : List Opening) : Bool :=
  openings.all fun opening => opening.attributes.all isUnmarked

theorem areUnmarked_append (openings others : List Opening) :
    areUnmarked (openings ++ others) = (areUnmarked openings && areUnmarked others) :=
  List.all_append

/-- Whether some start tags are neither those of containers nor those of notes. -/
def MarkNothing (openings : List Opening) : Prop :=
  ∀ opening ∈ openings, isContainer opening.read = false ∧ isNote opening.read = false

theorem markNothing_append {openings others : List Opening} (first : MarkNothing openings)
    (second : MarkNothing others) : MarkNothing (openings ++ others) :=
  List.forall_mem_append.mpr ⟨first, second⟩

theorem markNothing_of_areUnmarked {openings : List Opening}
    (unmarked : areUnmarked openings = true) : MarkNothing openings := by
  intro opening member
  have allUnmarked := List.all_eq_true.mp (List.all_eq_true.mp unmarked opening member)
  constructor
  · refine Bool.not_eq_true _ ▸ fun contains => ?_
    obtain ⟨name, pieces, isWritten, isId⟩ := exists_of_isContainer contains
    have apart := allUnmarked _ isWritten
    rw [isUnmarked, isId] at apart
    cases apart
  · refine Bool.not_eq_true _ ▸ fun notes => ?_
    obtain ⟨name, pieces, isWritten, isClass, _⟩ := exists_of_isNote notes
    have apart := allUnmarked _ isWritten
    rw [isUnmarked, isClass] at apart
    cases apart

theorem areUnmarked_map {trees : List String} {element : String → Html}
    (unmarked : ∀ value, areUnmarked (element value).openings = true) :
    areUnmarked (Html.openingsOf (trees.map element)) = true := by
  induction trees with
  | nil => rfl
  | cons value others inductionHypothesis =>
      rw [List.map_cons, Html.openingsOf, areUnmarked_append, unmarked, inductionHypothesis]
      rfl

theorem areUnmarked_metadata (seo : Seo) :
    areUnmarked (Html.openingsOf (metadata website options seo)) = true := by
  unfold metadata previewImage
  cases seo.keywords.isEmpty
  · cases Text.nonempty? seo.ogImage
    · rfl
    · rfl
  · cases Text.nonempty? seo.ogImage
    · rfl
    · rfl

theorem areUnmarked_headLinks (asset : String) (preloads : List String) :
    areUnmarked (Html.openingsOf (headLinks asset preloads)) = true := by
  have preloaded : areUnmarked (Html.openingsOf (preloads.map preloadLink)) = true := by
    refine areUnmarked_map fun address => ?_
    unfold preloadLink
    split
    · rfl
    · rfl
  rw [headLinks, Html.openingsOf_append, Html.openingsOf_append, areUnmarked_append,
    areUnmarked_append, preloaded]
  rfl

/-- Before its components a document has neither containers nor notes. -/
theorem markNothing_openingTags (seo : Seo) (preloads : List String) :
    MarkNothing (openingTags page website options seo preloads) := by
  have skipLink : isContainer (Opening.read
        ⟨"a", [.fixed "href" "#main-content", .fixed "class" "skip-link"]⟩) = false ∧
      isNote (Opening.read
        ⟨"a", [.fixed "href" "#main-content", .fixed "class" "skip-link"]⟩) = false := by
    decide
  have head : areUnmarked (Html.openingsOf
      (metadata website options seo ++ headLinks page.asset preloads)) = true := by
    rw [Html.openingsOf_append, areUnmarked_append, areUnmarked_metadata, areUnmarked_headLinks]
    rfl
  refine markNothing_append (markNothing_append (markNothing_of_areUnmarked rfl)
    (markNothing_of_areUnmarked head)) (List.forall_mem_cons.mpr
      ⟨markNothing_of_areUnmarked rfl _ (List.mem_singleton_self (⟨"body", []⟩ : Opening)),
        List.forall_mem_cons.mpr ⟨skipLink, markNothing_of_areUnmarked rfl⟩⟩)

/-- Behind its components a document has neither containers nor notes. -/
theorem markNothing_closingTags (deferrals : List String) (islands : List Island) :
    MarkNothing (closingTags page website options deferrals islands) := by
  have prefetched : areUnmarked (Html.openingsOf (deferrals.map fun address =>
      .void "link" [.fixed "rel" "prefetch", .holding "href" address])) = true :=
    areUnmarked_map fun _ => rfl
  refine markNothing_of_areUnmarked ?_
  rw [closingTags, trailingElements, Html.openingsOf_append, areUnmarked_append, prefetched]
  simp only [Html.openingsOf, Html.openings, Html.openingsOf_of_isCode isCode_workerRegistration]
  rfl

/-! ## The components -/

theorem map_read_openingsOf (nodes : List Node) :
    (Html.openingsOf ((partsOf {} nodes).map (·.fragment.body))).map Opening.read =
      nodes.flatMap startTagsOf := by
  induction nodes with
  | nil => rfl
  | cons node others inductionHypothesis =>
      rw [List.flatMap_cons, ← inductionHypothesis, partsOf, List.map_cons, List.map_cons,
        Html.openingsOf, List.map_append]
      rfl

/-- Components have a container each, and as many notes as warnings that name them. -/
theorem containers_and_notes_flatMap (nodes : List Node) :
    (nodes.flatMap startTagsOf).filter isContainer = nodes.map containerTag ∧
      ((nodes.flatMap startTagsOf).filter isNote).length =
        (nodes.filterMap reportedId).length := by
  induction nodes with
  | nil => exact ⟨rfl, rfl⟩
  | cons node others inductionHypothesis =>
      obtain ⟨isOwn, areNotes⟩ := containers_and_notes node
      obtain ⟨areContainers, areOtherNotes⟩ := inductionHypothesis
      rw [List.flatMap_cons, List.filter_append, List.filter_append, isOwn, areContainers,
        List.length_append, areNotes, areOtherNotes]
      refine ⟨rfl, ?_⟩
      cases reported : reportedId node with
      | none =>
          rw [List.filterMap_cons_none reported]
          exact Nat.zero_add _
      | some id =>
          rw [List.filterMap_cons_some reported]
          exact Nat.add_comm _ _

/-- The ids under which the warnings of a page report problems. -/
def reportedIds (warnings : List Warning) : List String :=
  warnings.filterMap (·.componentId)

theorem reportedIds_compile (builtIn : options.emitter = Emitter.builtIn) :
    reportedIds (compile page website options).warnings =
      (componentsOf page).filterMap reportedId := by
  have noId : reportedIds (contentWarnings page.content) = [] := by
    unfold contentWarnings
    cases readContent page.content with
    | ok content => rfl
    | error error => rfl
  rw [(assembled_compile page website options).warnings_eq, reportedIds, List.filterMap_append,
    ← reportedIds, noId, List.nil_append, List.filterMap_map, List.filterMap_filterMap, builtIn]
  rfl

/-- A document of built-in components has their containers, in their order, and as many notes as
its warnings report problems. -/
theorem containers_and_notes_html (builtIn : options.emitter = Emitter.builtIn) :
    containersIn (compile page website options).html = (componentsOf page).map containerTag ∧
      (notesIn (compile page website options).html).length =
        (reportedIds (compile page website options).warnings).length := by
  have areOpenings : (componentOpenings page options).map Opening.read =
      (componentsOf page).flatMap startTagsOf := by
    rw [← map_read_openingsOf, componentOpenings, componentMarkup, partsOf, partsOf, builtIn]
  have opening := markNothing_openingTags page website options
    (compile page website options).seo (compile page website options).performance.preloads
  have closing := markNothing_closingTags page website options
    (compile page website options).performance.deferrals (compile page website options).islands
  have noContainers {openings : List Opening} (nothing : MarkNothing openings) :
      (openings.map Opening.read).filter isContainer = [] :=
    List.filter_eq_nil_iff.mpr (List.forall_mem_map.mpr fun inner member =>
      Bool.eq_false_iff.mp (nothing inner member).1)
  have noNotes {openings : List Opening} (nothing : MarkNothing openings) :
      (openings.map Opening.read).filter isNote = [] :=
    List.filter_eq_nil_iff.mpr (List.forall_mem_map.mpr fun inner member =>
      Bool.eq_false_iff.mp (nothing inner member).2)
  obtain ⟨areContainers, areNotes⟩ := containers_and_notes_flatMap (componentsOf page)
  rw [containersIn, notesIn, startTags_html page website options builtIn, List.map_append,
    List.map_append, areOpenings, List.filter_append, List.filter_append, List.filter_append,
    List.filter_append, noContainers opening, noContainers closing, noNotes opening,
    noNotes closing, areContainers, List.nil_append, List.append_nil, List.nil_append,
    List.append_nil, areNotes, reportedIds_compile page website options builtIn]
  exact ⟨rfl, rfl⟩

/-! ## The entries of a page -/

def isObject : Json → Bool
  | .object _ => true
  | _ => false

/-- Whether a start tag is that of the container of the component that an entry stores, under an id
of its own. -/
def Contains (tag : StartTag) (entry : Json) : Prop :=
  ∃ members index id, entry = .object members ∧
    tag = containerTag (withId (Node.ofMembers members index) id)

/-- The entries that are objects store one component each. -/
theorem forall₂_storedNodes (entries : List Json) :
    List.Forall₂ (fun node entry => ∃ members index, entry = .object members ∧
        node = Node.ofMembers members index)
      (storedNodes entries) (entries.filter isObject) := by
  unfold storedNodes
  generalize 0 = start
  induction entries generalizing start with
  | nil => exact .nil
  | cons entry others inductionHypothesis =>
      rw [List.zipIdx_cons]
      cases entry with
      | object members =>
          exact .cons ⟨members, start, rfl, rfl⟩ (inductionHypothesis (start + 1))
      | _ => exact inductionHypothesis (start + 1)

/-- Without a warning about its content, the containers of a page are those of the entries that are
objects, in their order. -/
theorem forall₂_contains {content : Content} (isContent : readContent page.content = .ok content) :
    List.Forall₂ Contains ((componentsOf page).map containerTag)
      ((entriesOf page.content).filter isObject) := by
  have areComponents : componentsOf page = withUniqueIds (storedNodes (entriesOf page.content)) := by
    rw [componentsOf, isContent]
    exact components_of_readContent isContent
  have follow := (idsFollow_withUniqueIds (entriesOf page.content)).stored
  rw [← areComponents] at follow
  have withStored : List.Forall₂ (fun node stored => node = withId stored node.id)
      (componentsOf page) (storedNodes (entriesOf page.content)) :=
    follow.flip
  rw [List.forall₂_map_left_iff]
  refine (Related.trans withStored (forall₂_storedNodes (entriesOf page.content))).imp ?_
  rintro node entry ⟨stored, isNode, members, index, rfl, rfl⟩
  exact ⟨members, index, node.id, rfl, congrArg containerTag isNode⟩

theorem nodup_ids_containerTag :
    (((componentsOf page).map containerTag).map (·.value? "data-component-id")).Nodup := by
  have areIds : ((componentsOf page).map containerTag).map (·.value? "data-component-id") =
      ((componentsOf page).map (·.id)).map some := by
    rw [List.map_map, List.map_map]
    rfl
  rw [areIds]
  exact (nodup_componentsOf page).map fun _ _ same => Option.some.inj same

/-- A document of built-in components has a container of its own for each of them, in their order,
and as many notes as its warnings report problems, each under the id of a component. If there is no
warning at all, it has no note, and its containers are those of the entries that are objects, in
their order; so nothing is lost exactly if all entries are objects. -/
theorem nothing_lost_iff (builtIn : options.emitter = Emitter.builtIn) :
    containersIn (compile page website options).html = (componentsOf page).map containerTag ∧
      ((containersIn (compile page website options).html).map
        (·.value? "data-component-id")).Nodup ∧
      (notesIn (compile page website options).html).length =
        (reportedIds (compile page website options).warnings).length ∧
      (∀ id ∈ reportedIds (compile page website options).warnings,
        id ∈ (componentsOf page).map (·.id)) ∧
      ((compile page website options).warnings = [] →
        notesIn (compile page website options).html = [] ∧
          List.Forall₂ Contains (containersIn (compile page website options).html)
            ((entriesOf page.content).filter isObject) ∧
          ((containersIn (compile page website options).html).length =
              (entriesOf page.content).length ↔
            ∀ entry ∈ entriesOf page.content, isObject entry = true)) := by
  obtain ⟨areContainers, areNotes⟩ := containers_and_notes_html page website options builtIn
  have areReported := reportedIds_compile page website options builtIn
  refine ⟨areContainers, ?_, areNotes, fun id isReported => ?_, fun noWarning => ?_⟩
  · rw [areContainers]
    exact nodup_ids_containerTag page
  · rw [areReported] at isReported
    obtain ⟨node, isNode, isId⟩ := List.mem_filterMap.mp isReported
    exact List.mem_map.mpr ⟨node, isNode, (reportedId_eq isId).symm⟩
  · have noNote : notesIn (compile page website options).html = [] := by
      rw [noWarning] at areNotes
      exact List.length_eq_zero_iff.mp areNotes
    have contained : List.Forall₂ Contains (containersIn (compile page website options).html)
        ((entriesOf page.content).filter isObject) := by
      have noContentWarning : contentWarnings page.content = [] := by
        rw [(assembled_compile page website options).warnings_eq] at noWarning
        exact (List.append_eq_nil_iff.mp noWarning).1
      rw [areContainers]
      unfold contentWarnings at noContentWarning
      split at noContentWarning
      · rename_i content isContent
        exact forall₂_contains page isContent
      · cases noContentWarning
    refine ⟨noNote, contained, ?_⟩
    rw [contained.length_eq, List.length_filter_eq_length_iff]

/-- A page with a hero and a text. -/
def plainPage : Page :=
  pageOfContent
    ("\x7b\"components\": [\x7b\"type\": \"hero\"\x7d, " ++
      "\x7b\"id\": \"a\", \"type\": \"text\"\x7d]\x7d")

/-- A page of two components that are shown loses none of them. -/
theorem nothing_lost_plainPage :
    (compile plainPage bareWebsite {}).warnings = [] ∧
      notesIn (compile plainPage bareWebsite {}).html = [] ∧
      (containersIn (compile plainPage bareWebsite {}).html).length = 2 := by
  have noWarning : (compile plainPage bareWebsite {}).warnings = [] := by decide +kernel
  obtain ⟨_, _, _, _, nothing⟩ := nothing_lost_iff plainPage bareWebsite {} rfl
  obtain ⟨noNote, _, lost⟩ := nothing noWarning
  have areTwo : (entriesOf plainPage.content).length = 2 := by decide +kernel
  have areObjects : (entriesOf plainPage.content).all isObject = true := by decide +kernel
  refine ⟨noWarning, noNote, ?_⟩
  rw [lost.mpr (List.all_eq_true.mp areObjects), areTwo]

/-- A page whose only entry is a number. -/
def numberPage : Page :=
  pageOfContent "\x7b\"components\": [7]\x7d"

/-- Not every entry that a page loses is reported: one that is no object disappears without a
warning. -/
theorem not_nothing_lost :
    ¬ ∀ (page : Page) (website : Website) (options : Options),
      options.emitter = Emitter.builtIn → (compile page website options).warnings = [] →
        (containersIn (compile page website options).html).length =
          (entriesOf page.content).length := by
  intro keepsAll
  have noWarning : (compile numberPage bareWebsite {}).warnings = [] := by decide +kernel
  have noComponent : (componentsOf numberPage).length = 0 := by decide +kernel
  have isOne : (entriesOf numberPage.content).length = 1 := by decide +kernel
  have keeps := keepsAll numberPage bareWebsite {} rfl noWarning
  rw [(containers_and_notes_html numberPage bareWebsite {} rfl).1, List.length_map, noComponent,
    isOne] at keeps
  cases keeps

end StaticSite.Page
