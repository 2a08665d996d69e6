import StaticSite.Proofs.Page.ComponentId
import StaticSite.Proofs.Page.ElementIds

/-!
Contract: when no two elements of a document have the same id.

Owns:
- which kinds of ids can never be the same, by how they begin and how they end;
- the exact condition on the components of a page under which every id is given once.

Does not own: which ids a document gives (see `StaticSite.Proofs.Page.ElementIds`).
-/

namespace StaticSite.Page

open StaticSite.Component StaticSite.Emission StaticSite.Markup

/-! ## Beginnings and endings -/

/-- The first characters of a text, by which kinds of ids are told apart. -/
def beginning (text : String) : List Char :=
  text.toList.take 4

/-- The last characters of a text, in reverse. -/
def ending (text : String) : List Char :=
  text.toList.reverse.take 4

theorem beginning_append {start : String} (long : 4 ≤ start.toList.length) (rest : String) :
    beginning (start ++ rest) = beginning start := by
  rw [beginning, String.toList_append, List.take_append_of_le_length long]
  rfl

theorem ending_append {last : String} (long : 4 ≤ last.toList.length) (rest : String) :
    ending (rest ++ last) = ending last := by
  rw [ending, String.toList_append, List.reverse_append, List.take_append_of_le_length]
  · rfl
  · rw [List.length_reverse]
    exact long

theorem beginning_of_mem_containerId {node : Node} {id : String}
    (member : id ∈ [containerId node]) : beginning id = "comp".toList := by
  rw [List.mem_singleton.mp member]
  exact beginning_append (by decide) node.id

theorem mem_dialogIds_iff {node : Node} {id : String} :
    id ∈ dialogIds node ↔ node.type = "modal" ∧ id = "modal-" ++ node.id := by
  rw [dialogIds, List.mem_ite_nil_right, List.mem_singleton]

theorem mem_titleIds_iff {node : Node} {id : String} :
    id ∈ titleIds node ↔ node.type = "modal" ∧ id = "modal-" ++ node.id ++ "-title" := by
  rw [titleIds, List.mem_ite_nil_right, List.mem_singleton]

theorem beginning_of_mem_dialogIds {node : Node} {id : String} (member : id ∈ dialogIds node) :
    beginning id = "moda".toList := by
  rw [(mem_dialogIds_iff.mp member).2]
  exact beginning_append (by decide) node.id

theorem beginning_of_mem_titleIds {node : Node} {id : String} (member : id ∈ titleIds node) :
    beginning id = "moda".toList := by
  rw [(mem_titleIds_iff.mp member).2, String.append_assoc]
  exact beginning_append (by decide) (node.id ++ "-title")

theorem ending_of_mem_titleIds {node : Node} {id : String} (member : id ∈ titleIds node) :
    ending id = ending "-title" := by
  rw [(mem_titleIds_iff.mp member).2]
  exact ending_append (by decide) ("modal-" ++ node.id)

theorem beginning_of_mem_mapIds {node : Node} {id : String} (member : id ∈ mapIds node) :
    beginning id = "map-".toList := by
  obtain ⟨name, _, rfl⟩ := List.mem_map.mp member
  exact beginning_append (by decide) name

def allFieldEndings : List String := ["-name", "-email", "-message", "-quantity"]

theorem mem_allFieldEndings {type last : String} (member : last ∈ fieldEndings type) :
    last ∈ allFieldEndings := by
  have formEndings : ∀ last ∈ ["-name", "-email", "-message"], last ∈ allFieldEndings := by decide
  have productEndings : ∀ last ∈ ["-quantity"], last ∈ allFieldEndings := by decide
  unfold fieldEndings at member
  split at member
  · exact formEndings last member
  · split at member
    · exact productEndings last member
    · exact absurd member List.not_mem_nil

theorem long_of_mem_allFieldEndings : ∀ last ∈ allFieldEndings, 4 ≤ last.toList.length := by
  decide

/-- The ids of fields tell the component and the field. -/
theorem eq_of_mem_fieldIds {node other : Node} {id : String} (member : id ∈ fieldIds node)
    (same : id ∈ fieldIds other) : node.id = other.id := by
  obtain ⟨last, isLast, rfl⟩ := List.mem_map.mp member
  obtain ⟨otherLast, isOther, sameId⟩ := List.mem_map.mp same
  have known := mem_allFieldEndings isLast
  have otherKnown := mem_allFieldEndings isOther
  have sameEnding := congrArg ending sameId
  rw [ending_append (long_of_mem_allFieldEndings otherLast otherKnown),
    ending_append (long_of_mem_allFieldEndings last known)] at sameEnding
  have told : ∀ first ∈ allFieldEndings, ∀ second ∈ allFieldEndings,
      ending first = ending second → first = second := by decide
  rw [told otherLast otherKnown last known sameEnding] at sameId
  exact (String.append_left_inj last).mp sameId.symm

theorem ending_of_mem_fieldIds {node : Node} {id : String} (member : id ∈ fieldIds node) :
    ending id ∈ allFieldEndings.map ending := by
  obtain ⟨last, isLast, rfl⟩ := List.mem_map.mp member
  have known := mem_allFieldEndings isLast
  rw [ending_append (long_of_mem_allFieldEndings last known)]
  exact List.mem_map_of_mem known

/-! ## Ids of one kind -/

/-- Ids that tell their component are given once by components with different ids. -/
theorem nodup_flatMap_of_tells {nodes : List Node} (distinct : (nodes.map (·.id)).Nodup)
    {idsOf : Node → List String} (once : ∀ node, (idsOf node).Nodup)
    (tells : ∀ {node other : Node} {id : String}, id ∈ idsOf node → id ∈ idsOf other →
      node.id = other.id) : (nodes.flatMap idsOf).Nodup := by
  rw [List.nodup_flatMap]
  refine ⟨fun node _ => once node, ?_⟩
  apply (List.pairwise_map.mp distinct).imp
  intro node other differs id member same
  exact differs (tells member same)

theorem nodup_containerIds {nodes : List Node} (distinct : (nodes.map (·.id)).Nodup) :
    (nodes.flatMap fun node => [containerId node]).Nodup := by
  apply nodup_flatMap_of_tells distinct
  · intro node
    exact List.nodup_singleton _
  · intro node other id member same
    have sameId := (List.mem_singleton.mp member).symm.trans (List.mem_singleton.mp same)
    exact (String.append_right_inj "component-").mp sameId

theorem nodup_fieldIds {nodes : List Node} (distinct : (nodes.map (·.id)).Nodup) :
    (nodes.flatMap fieldIds).Nodup := by
  apply nodup_flatMap_of_tells distinct
  · intro node
    have nodupEndings : (fieldEndings node.type).Nodup := by
      unfold fieldEndings
      split
      · decide
      · split
        · decide
        · exact List.nodup_nil
    exact nodupEndings.map fun _ _ same => (String.append_right_inj node.id).mp same
  · exact eq_of_mem_fieldIds

theorem nodup_dialogIds {nodes : List Node} (distinct : (nodes.map (·.id)).Nodup) :
    (nodes.flatMap dialogIds).Nodup := by
  apply nodup_flatMap_of_tells distinct
  · intro node
    unfold dialogIds
    split
    · exact List.nodup_singleton _
    · exact List.nodup_nil
  · intro node other id member same
    have sameId := (mem_dialogIds_iff.mp member).2.symm.trans (mem_dialogIds_iff.mp same).2
    exact (String.append_right_inj "modal-").mp sameId

theorem nodup_titleIds {nodes : List Node} (distinct : (nodes.map (·.id)).Nodup) :
    (nodes.flatMap titleIds).Nodup := by
  apply nodup_flatMap_of_tells distinct
  · intro node
    unfold titleIds
    split
    · exact List.nodup_singleton _
    · exact List.nodup_nil
  · intro node other id member same
    have sameId := (mem_titleIds_iff.mp member).2.symm.trans (mem_titleIds_iff.mp same).2
    exact (String.append_right_inj "modal-").mp ((String.append_left_inj "-title").mp sameId)

theorem nodup_mapIds_iff (nodes : List Node) :
    (nodes.flatMap mapIds).Nodup ↔ (nodes.flatMap mapNames).Nodup := by
  have areNames : nodes.flatMap mapIds = (nodes.flatMap mapNames).map ("map-" ++ ·) := by
    rw [List.map_flatMap]
    rfl
  rw [areNames]
  exact List.nodup_map_iff fun _ _ same => (String.append_right_inj "map-").mp same

/-! ## Ids of different kinds -/

/-- Whether no id is in both of two lists. -/
def Apart (ids others : List String) : Prop :=
  ∀ id ∈ ids, ∀ other ∈ others, id ≠ other

instance (ids others : List String) : Decidable (Apart ids others) :=
  inferInstanceAs (Decidable (∀ id ∈ ids, ∀ other ∈ others, id ≠ other))

theorem apart_append_iff (ids others more : List String) :
    Apart ids (others ++ more) ↔ Apart ids others ∧ Apart ids more := by
  simp only [Apart, List.mem_append, or_imp, forall_and]

theorem nodup_append_iff (ids others : List String) :
    (ids ++ others).Nodup ↔ ids.Nodup ∧ others.Nodup ∧ Apart ids others :=
  List.nodup_append

theorem apart_flatMap_iff (nodes : List Node) (idsOf othersOf : Node → List String) :
    Apart (nodes.flatMap idsOf) (nodes.flatMap othersOf) ↔
      ∀ node ∈ nodes, ∀ other ∈ nodes, Apart (idsOf node) (othersOf other) := by
  constructor
  · intro apart node isNode other isOther id member otherId isId
    exact apart id (List.mem_flatMap.mpr ⟨node, isNode, member⟩) otherId
      (List.mem_flatMap.mpr ⟨other, isOther, isId⟩)
  · intro apart id member otherId isId
    obtain ⟨node, isNode, given⟩ := List.mem_flatMap.mp member
    obtain ⟨other, isOther, otherGiven⟩ := List.mem_flatMap.mp isId
    exact apart node isNode other isOther id given otherId otherGiven

/-- Ids are apart if something about them is always different. -/
theorem apart_of_key {ids others : List String} {key : String → List Char}
    {keys otherKeys : List (List Char)} (inKeys : ∀ id ∈ ids, key id ∈ keys)
    (inOthers : ∀ other ∈ others, key other ∈ otherKeys)
    (differs : ∀ value ∈ keys, value ∉ otherKeys) : Apart ids others := by
  intro id member other isOther same
  apply differs (key id) (inKeys id member)
  rw [same]
  exact inOthers other isOther

theorem key_mem_of_mem_flatMap (nodes : List Node) (idsOf : Node → List String)
    {key : String → List Char} {value : List Char}
    (each : ∀ {node : Node} {id : String}, id ∈ idsOf node → key id = value) :
    ∀ id ∈ nodes.flatMap idsOf, key id ∈ [value] := by
  intro id member
  obtain ⟨node, _, isId⟩ := List.mem_flatMap.mp member
  rw [each isId]
  exact List.mem_singleton_self value

/-- The ids of the two regions of a document. -/
def regionIds : List String := ["app", "main-content"]

section Kinds

variable (nodes : List Node)

/-- The ids of the containers of some components. -/
def containerIds : List String := nodes.flatMap fun node => [containerId node]

theorem beginning_of_mem_containerIds :
    ∀ id ∈ containerIds nodes, beginning id ∈ ["comp".toList] :=
  key_mem_of_mem_flatMap nodes _ beginning_of_mem_containerId

theorem ending_of_mem_allFieldIds :
    ∀ id ∈ nodes.flatMap fieldIds, ending id ∈ allFieldEndings.map ending := by
  intro id member
  obtain ⟨node, _, isId⟩ := List.mem_flatMap.mp member
  exact ending_of_mem_fieldIds isId

theorem beginning_of_mem_allDialogIds :
    ∀ id ∈ nodes.flatMap dialogIds, beginning id ∈ ["moda".toList] :=
  key_mem_of_mem_flatMap nodes dialogIds beginning_of_mem_dialogIds

theorem beginning_of_mem_allTitleIds :
    ∀ id ∈ nodes.flatMap titleIds, beginning id ∈ ["moda".toList] :=
  key_mem_of_mem_flatMap nodes titleIds beginning_of_mem_titleIds

theorem ending_of_mem_allTitleIds :
    ∀ id ∈ nodes.flatMap titleIds, ending id ∈ [ending "-title"] :=
  key_mem_of_mem_flatMap nodes titleIds ending_of_mem_titleIds

theorem beginning_of_mem_allMapIds :
    ∀ id ∈ nodes.flatMap mapIds, beginning id ∈ ["map-".toList] :=
  key_mem_of_mem_flatMap nodes mapIds beginning_of_mem_mapIds

/-- The ids of components inside and outside of their containers, kind by kind. -/
def idsByKind : List String :=
  containerIds nodes ++ (nodes.flatMap fieldIds ++
    (nodes.flatMap dialogIds ++ (nodes.flatMap titleIds ++ nodes.flatMap mapIds)))

theorem apart_regionIds : Apart regionIds (idsByKind nodes) := by
  have begin : ∀ id ∈ regionIds, beginning id ∈ regionIds.map beginning :=
    fun id member => List.mem_map_of_mem member
  have finish : ∀ id ∈ regionIds, ending id ∈ regionIds.map ending :=
    fun id member => List.mem_map_of_mem member
  simp only [idsByKind, apart_append_iff]
  refine ⟨?_, ?_, ?_, ?_, ?_⟩
  · exact apart_of_key begin (beginning_of_mem_containerIds nodes) (by decide)
  · exact apart_of_key finish (ending_of_mem_allFieldIds nodes) (by decide)
  · exact apart_of_key begin (beginning_of_mem_allDialogIds nodes) (by decide)
  · exact apart_of_key begin (beginning_of_mem_allTitleIds nodes) (by decide)
  · exact apart_of_key begin (beginning_of_mem_allMapIds nodes) (by decide)

/-- The ids of components are those of each kind, in another order. -/
theorem perm_idsByKind :
    (idsByKind nodes).Perm (nodes.flatMap fun node => containerId node :: innerIds node) := by
  -- The ids of a component are taken apart kind by kind, from the inside out.
  have dialogs := List.flatMap_append_perm nodes fieldIds dialogIds
  have titles := (dialogs.append_right (nodes.flatMap titleIds)).trans
    (List.flatMap_append_perm nodes (fun node => fieldIds node ++ dialogIds node) titleIds)
  have maps := (titles.append_right (nodes.flatMap mapIds)).trans
    (List.flatMap_append_perm nodes
      (fun node => fieldIds node ++ dialogIds node ++ titleIds node) mapIds)
  have all := (maps.append_left (containerIds nodes)).trans
    (List.flatMap_append_perm nodes (fun node => [containerId node]) innerIds)
  rw [List.append_assoc, List.append_assoc] at all
  exact all

end Kinds

/-! ## Ids that clash -/

/-- When the ids of components are different from each other. -/
structure IdsApart (nodes : List Node) : Prop where
  /-- No two maps have one name. -/
  maps : (nodes.flatMap mapNames).Nodup
  /-- No dialog has the id of the title of another one. -/
  titles : ∀ node ∈ nodes, ∀ other ∈ nodes,
    node.type = "modal" → other.type = "modal" → node.id ≠ other.id ++ "-title"
  /-- No field has the id of a dialog. -/
  dialogs : ∀ node ∈ nodes, ∀ other ∈ nodes, ∀ last ∈ fieldEndings node.type,
    other.type = "modal" → node.id ++ last ≠ "modal-" ++ other.id
  /-- No field has the id of a map. -/
  fields : ∀ node ∈ nodes, ∀ other ∈ nodes, ∀ last ∈ fieldEndings node.type,
    ∀ name ∈ mapNames other, node.id ++ last ≠ "map-" ++ name
  /-- No container has the id of a field. -/
  containers : ∀ node ∈ nodes, ∀ other ∈ nodes, ∀ last ∈ fieldEndings other.type,
    containerId node ≠ other.id ++ last

theorem forall_mem_dialogIds_iff {node : Node} {holds : String → Prop} :
    (∀ id ∈ dialogIds node, holds id) ↔ (node.type = "modal" → holds ("modal-" ++ node.id)) := by
  constructor
  · intro all isModal
    exact all _ (mem_dialogIds_iff.mpr ⟨isModal, rfl⟩)
  · intro held id member
    obtain ⟨isModal, rfl⟩ := mem_dialogIds_iff.mp member
    exact held isModal

theorem forall_mem_titleIds_iff {node : Node} {holds : String → Prop} :
    (∀ id ∈ titleIds node, holds id) ↔
      (node.type = "modal" → holds ("modal-" ++ node.id ++ "-title")) := by
  constructor
  · intro all isModal
    exact all _ (mem_titleIds_iff.mpr ⟨isModal, rfl⟩)
  · intro held id member
    obtain ⟨isModal, rfl⟩ := mem_titleIds_iff.mp member
    exact held isModal

theorem apart_dialogIds_titleIds_iff (node other : Node) :
    Apart (dialogIds node) (titleIds other) ↔
      (node.type = "modal" → other.type = "modal" → node.id ≠ other.id ++ "-title") := by
  rw [Apart, forall_mem_dialogIds_iff, forall_mem_titleIds_iff, String.append_assoc, ne_eq,
    String.append_right_inj]

theorem apart_fieldIds_dialogIds_iff (node other : Node) :
    Apart (fieldIds node) (dialogIds other) ↔
      ∀ last ∈ fieldEndings node.type,
        other.type = "modal" → node.id ++ last ≠ "modal-" ++ other.id := by
  simp only [Apart, fieldIds, List.forall_mem_map, forall_mem_dialogIds_iff]

theorem apart_fieldIds_mapIds_iff (node other : Node) :
    Apart (fieldIds node) (mapIds other) ↔
      ∀ last ∈ fieldEndings node.type, ∀ name ∈ mapNames other,
        node.id ++ last ≠ "map-" ++ name := by
  simp only [Apart, fieldIds, mapIds, List.forall_mem_map]

theorem apart_containerId_fieldIds_iff (node other : Node) :
    Apart [containerId node] (fieldIds other) ↔
      ∀ last ∈ fieldEndings other.type, containerId node ≠ other.id ++ last := by
  simp only [Apart, fieldIds, List.forall_mem_singleton, List.forall_mem_map]

section

variable (nodes : List Node)

theorem idsApart_iff :
    IdsApart nodes ↔
      (nodes.flatMap mapNames).Nodup ∧
        Apart (nodes.flatMap dialogIds) (nodes.flatMap titleIds) ∧
        Apart (nodes.flatMap fieldIds) (nodes.flatMap dialogIds) ∧
        Apart (nodes.flatMap fieldIds) (nodes.flatMap mapIds) ∧
        Apart (containerIds nodes) (nodes.flatMap fieldIds) := by
  simp only [containerIds, apart_flatMap_iff, apart_dialogIds_titleIds_iff,
    apart_fieldIds_dialogIds_iff, apart_fieldIds_mapIds_iff, apart_containerId_fieldIds_iff]
  constructor
  · intro apart
    exact ⟨apart.maps, apart.titles, apart.dialogs, apart.fields, apart.containers⟩
  · rintro ⟨maps, titles, dialogs, fields, containers⟩
    exact ⟨maps, titles, dialogs, fields, containers⟩

instance : Decidable (IdsApart nodes) :=
  decidable_of_iff _ (idsApart_iff nodes).symm

/-- Components with different ids give an id twice only as one of five pairs. -/
theorem nodup_idsByKind_iff (distinct : (nodes.map (·.id)).Nodup) :
    (idsByKind nodes).Nodup ↔ IdsApart nodes := by
  have containers := beginning_of_mem_containerIds nodes
  have dialogs := beginning_of_mem_allDialogIds nodes
  have titles := beginning_of_mem_allTitleIds nodes
  have maps := beginning_of_mem_allMapIds nodes
  -- Six pairs of kinds are told apart by how they begin or end; the other four can clash.
  have titleMap : Apart (nodes.flatMap titleIds) (nodes.flatMap mapIds) :=
    apart_of_key titles maps (by decide)
  have dialogMap : Apart (nodes.flatMap dialogIds) (nodes.flatMap mapIds) :=
    apart_of_key dialogs maps (by decide)
  have fieldTitle : Apart (nodes.flatMap fieldIds) (nodes.flatMap titleIds) :=
    apart_of_key (ending_of_mem_allFieldIds nodes) (ending_of_mem_allTitleIds nodes) (by decide)
  have containerDialog : Apart (containerIds nodes) (nodes.flatMap dialogIds) :=
    apart_of_key containers dialogs (by decide)
  have containerTitle : Apart (containerIds nodes) (nodes.flatMap titleIds) :=
    apart_of_key containers titles (by decide)
  have containerMap : Apart (containerIds nodes) (nodes.flatMap mapIds) :=
    apart_of_key containers maps (by decide)
  have onceContainers : (containerIds nodes).Nodup := nodup_containerIds distinct
  rw [idsApart_iff]
  simp only [idsByKind, nodup_append_iff, apart_append_iff, onceContainers,
    nodup_fieldIds distinct, nodup_dialogIds distinct, nodup_titleIds distinct, nodup_mapIds_iff,
    titleMap, dialogMap, fieldTitle, containerDialog, containerTitle, containerMap, true_and,
    and_true, and_assoc]

end

/-! ## Pages -/

theorem nodup_componentsOf (page : Page) : ((componentsOf page).map (·.id)).Nodup := by
  unfold componentsOf
  cases isContent : readContent page.content with
  | ok content =>
      show (content.components.map (·.id)).Nodup
      rw [components_of_readContent isContent]
      exact (idsFollow_withUniqueIds (entriesOf page.content)).distinct
  | error error => exact List.nodup_nil

theorem nodup_pageIds_iff {nodes : List Node} (distinct : (nodes.map (·.id)).Nodup) :
    (pageIds nodes).Nodup ↔ IdsApart nodes := by
  have perm : (regionIds ++ idsByKind nodes).Perm (pageIds nodes) :=
    (perm_idsByKind nodes).append_left regionIds
  have onceRegions : regionIds.Nodup := by decide
  rw [← perm.nodup_iff, nodup_append_iff, nodup_idsByKind_iff nodes distinct]
  constructor
  · rintro ⟨_, once, _⟩
    exact once
  · intro once
    exact ⟨onceRegions, once, apart_regionIds nodes⟩

/-- The elements of a document have the ids of its two regions and those of the components, and
these are different exactly if no two of five kinds clash: the names of maps, the ids of dialogs
with those of titles, and the ids of fields with those of dialogs, maps and containers. -/
theorem element_ids_distinct_iff (page : Page) (website : Website) (options : Options)
    (builtIn : options.emitter = Emitter.builtIn) :
    elementIds (compile page website options).html = pageIds (componentsOf page) ∧
      ((elementIds (compile page website options).html).Nodup ↔ IdsApart (componentsOf page)) := by
  have areIds := elementIds_html page website options builtIn
  constructor
  · exact areIds
  · rw [areIds]
    exact nodup_pageIds_iff (nodup_componentsOf page)

/-- A page with nothing but components. -/
def pageOfContent (content : String) : Page :=
  { id := "p", name := none, slug := none, content := some content, metaTitle := none
    metaDescription := none, metaKeywords := none }

def bareWebsite : Website :=
  { id := "w", name := none, description := none, language := none, theme := none, pages := [] }

/-- A page with a component of each kind that gives ids. -/
def furnishedPage : Page :=
  pageOfContent
    ("\x7b\"components\": [\x7b\"id\": \"x\", \"type\": \"form\"\x7d, " ++
      "\x7b\"id\": \"y\", \"type\": \"modal\"\x7d, " ++
      "\x7b\"id\": \"z\", \"type\": \"map\", \"props\": \x7b\"id\": \"a&b\"\x7d\x7d, " ++
      "\x7b\"type\": \"map\"\x7d, \x7b\"id\": \"x\", \"type\": \"ecommerce-product\"\x7d]\x7d")

/-- The ids of a page with a component of each kind that gives ids. -/
theorem element_ids_distinct_furnished :
    elementIds (compile furnishedPage bareWebsite {}).html =
        [ "app", "main-content", "component-x", "x-name", "x-email", "x-message", "component-y",
          "modal-y", "modal-y-title", "component-z", "map-a&b", "component-c3", "map-default",
          "component-x-2", "x-2-quantity" ] ∧
      IdsApart (componentsOf furnishedPage) := by
  obtain ⟨areIds, distinct⟩ := element_ids_distinct_iff furnishedPage bareWebsite {} rfl
  have known : pageIds (componentsOf furnishedPage) =
      [ "app", "main-content", "component-x", "x-name", "x-email", "x-message", "component-y",
        "modal-y", "modal-y-title", "component-z", "map-a&b", "component-c3", "map-default",
        "component-x-2", "x-2-quantity" ] := by
    decide +kernel
  rw [known] at areIds
  constructor
  · exact areIds
  · apply distinct.mp
    rw [areIds]
    decide

/-- A page with two maps that have no names. -/
def twoMaps : Page :=
  pageOfContent
    ("\x7b\"components\": [\x7b\"id\": \"a\", \"type\": \"map\"\x7d, " ++
      "\x7b\"id\": \"b\", \"type\": \"map\"\x7d]\x7d")

/-- Not every page gives its elements different ids: two maps without names share one. -/
theorem not_element_ids_distinct :
    ¬ ∀ (page : Page) (website : Website) (options : Options),
      options.emitter = Emitter.builtIn →
        (elementIds (compile page website options).html).Nodup := by
  intro allDistinct
  have distinct := allDistinct twoMaps bareWebsite {} rfl
  have clash : ¬ IdsApart (componentsOf twoMaps) := by decide +kernel
  rw [elementIds_html twoMaps bareWebsite {} rfl] at distinct
  exact clash ((nodup_pageIds_iff (nodup_componentsOf twoMaps)).mp distinct)

end StaticSite.Page
