import StaticSite.Proofs.Emission.Derivation
import StaticSite.Proofs.Emission.StartTag
import StaticSite.Proofs.Emission.Totality
import StaticSite.Proofs.Emission.View

/-!
Contract: the lists that components show, record by record.

Owns:
- the records of a list, the texts that they show, and their scopes with their positions;
- the law that each record of a list is shown once, in order and with its position, and that only
  the first is marked as the first.

Does not own: what is shown of a record (see `StaticSite.Proofs.Emission.View`).
-/

namespace StaticSite.Emission

open StaticSite.Component StaticSite.Markup StaticSite.Schema

namespace Listing

/-! ## Records and their scopes -/

/-- The objects in the list that is stored for a component. -/
def records (listing : Listing) (node : Node) : List Json.Members :=
  match node.prop listing.list with
  | .array items => recordsIn items
  | _ => []

/-- The values of the fields of a record. -/
def itemValues (listing : Listing) (record : Json.Members) : Json.Members :=
  match coerceFields record listing.itemFields with
  | .ok values => values
  | .error _ => []

/-- The text that a record shows under a name. -/
def shown (listing : Listing) (record : Json.Members) (name : String) : String :=
  filledText (((listing.itemValues record).lookup name).getD .null)

/-- The scope of an item with its position. -/
def itemScope (listing : Listing) (index : Nat) (record : Json.Members) : Json :=
  .object (addPosition index (listing.itemValues record))

/-- A listing is that of a built-in type, which adds positions to the items and requires no props;
the fields of an item hold texts, under other names than those of the position. -/
structure IsBuiltIn (listing : Listing) : Prop where
  known : listing.definition ∈ catalogue
  requiresNone : listing.definition.required = []
  derives : listing.definition.derive = positionsIn listing.list
  isField : recordsField listing.list listing.list listing.itemFields ∈ listing.definition.fields
  distinct : (listing.definition.fields.map Field.name).Nodup
  areTexts : listing.itemFields.all Field.isText = true
  apart : ∀ name ∈ listing.itemFields.map Field.name, name ∉ ["index", "first", "side"]

theorem isBuiltIn_of_mem : ∀ listing ∈ listings, listing.IsBuiltIn := by
  simp only [listings, List.forall_mem_cons, List.not_mem_nil, IsEmpty.forall_iff, implies_true,
    and_true]
  refine
    ⟨⟨?_, rfl, rfl, List.mem_cons_self, by decide, by decide, by decide⟩,
      ⟨?_, rfl, rfl, List.mem_cons_self, by decide, by decide, by decide⟩,
      ⟨?_, rfl, rfl, List.mem_cons_self, by decide, by decide, by decide⟩,
      ⟨?_, rfl, rfl, List.mem_cons_of_mem _ List.mem_cons_self, by decide, by decide, by decide⟩,
      ⟨?_, rfl, rfl, List.mem_cons_of_mem _ List.mem_cons_self, by decide, by decide, by decide⟩⟩
  all_goals simp [catalogue, gallery, tabs, carousel, accordion, faq]

variable {listing : Listing} (builtIn : listing.IsBuiltIn)
include builtIn

theorem coerceFields_item (record : Json.Members) :
    coerceFields record listing.itemFields = .ok (listing.itemValues record) := by
  obtain ⟨values, coerced, _⟩ := exists_texts_of_isText builtIn.areTexts record
  rw [itemValues, coerced]

theorem lookup_itemValues (record : Json.Members) {name : String}
    (isName : name ∈ listing.itemFields.map Field.name) :
    (listing.itemValues record).lookup name = some (.text (listing.shown record name)) := by
  obtain ⟨values, coerced, areTexts⟩ := exists_texts_of_isText builtIn.areTexts record
  have isValues : listing.itemValues record = values := by rw [itemValues, coerced]
  rw [← names_coerceFields coerced, ← Association.isSome_lookup_iff] at isName
  obtain ⟨value, found⟩ := Option.isSome_iff_exists.mp isName
  obtain ⟨text, rfl⟩ := areTexts _ (Association.mem_of_lookup_eq_some found)
  rw [shown, isValues, found]
  rfl

theorem places_itemScope (record : Json.Members) (index : Nat) (scopes : Scopes) :
    Places (listing.itemFields.map Field.name) (listing.shown record) index
      (listing.itemScope index record :: scopes) := by
  have isLookup {name : String} {value : Json}
      (found : (addPosition index (listing.itemValues record)).lookup name = some value) :
      Scopes.lookup (listing.itemScope index record :: scopes) name = value := by
    rw [Scopes.lookup, List.findSome?_cons, itemScope, Json.member?, found]
    rfl
  refine ⟨fun name isName => isLookup ?_, isLookup ?_, isLookup ?_⟩
  · have apart := builtIn.apart name isName
    simp only [List.mem_cons, List.not_mem_nil, or_false, not_or] at apart
    rw [addPosition, Association.lookup_bind_of_ne apart.2.2,
      Association.lookup_bind_of_ne apart.2.1, Association.lookup_bind_of_ne apart.1,
      lookup_itemValues builtIn record isName]
  · rw [addPosition, Association.lookup_bind_of_ne (by decide),
      Association.lookup_bind_of_ne (by decide), Association.lookup_bind_self]
  · rw [addPosition, Association.lookup_bind_of_ne (by decide), Association.lookup_bind_self]

/-- The items of a list are its objects, whatever else is stored in its place. -/
theorem coerce_list (node : Node) :
    (recordsField listing.list listing.list listing.itemFields).coerce node.props =
      .ok (listing.list, .array ((listing.records node).map (.object ∘ listing.itemValues))) := by
  have areItems (records : List Json.Members) :
      records.mapM (fun record => (coerceFields record listing.itemFields).map Json.object) =
        .ok (records.map (.object ∘ listing.itemValues)) := by
    simp only [coerceFields_item builtIn, Except.map]
    exact List.mapM_pure
  rw [recordsField, Field.coerce, records, Node.prop]
  cases (node.props.lookup listing.list).getD .null with
  | array items =>
      rw [Kind.coerce, areItems]
      rfl
  | _ => rfl

/-- The scopes of the items of a list, each with its position. -/
theorem lookup_list {node : Node} {values : Json.Members}
    (coerced : coerceFields node.props listing.definition.fields = .ok values) :
    Scopes.lookup [listing.definition.scope node values] listing.list =
      .array ((listing.records node).mapIdx listing.itemScope) := by
  obtain ⟨stored, isStored, found⟩ :=
    lookup_coerceFields coerced builtIn.distinct builtIn.isField
  rw [coerce_list builtIn node, Except.ok.injEq, Prod.mk.injEq] at isStored
  have areScopes : changeRecords addPosition
      ((listing.records node).map (.object ∘ listing.itemValues)) =
        (listing.records node).mapIdx listing.itemScope := by
    rw [changeRecords, List.zipIdx_map, List.map_map, List.mapIdx_eq_zipIdx_map]
    rfl
  have isList : (listing.definition.derive values).lookup listing.list =
      some (.array ((listing.records node).mapIdx listing.itemScope)) := by
    have stands : values.lookup listing.list = some stored := found
    rw [builtIn.derives, positionsIn_eq, lookup_changeList_self, stands, ← isStored.2,
      Option.map_some, changeItems, areScopes]
  rw [Scopes.lookup, List.findSome?_cons, Definition.scope, Json.member?, List.lookup_append,
    isList]
  rfl

/-- The elements with the class of a view in the markup of a component. -/
theorem withClass_markup {view : View} (fills : listing.Fills view) {node : Node}
    {values : Json.Members}
    (coerced : coerceFields node.props listing.definition.fields = .ok values) :
    Html.withClass view.className
        (listing.definition.markup.fill [listing.definition.scope node values]) =
      (listing.records node).mapIdx fun index record => view.block (listing.shown record) index := by
  obtain ⟨item, isRepeated, isSole, isFilled⟩ := fills
  rw [withClass_fill_of_repeated view.className isRepeated isSole, lookup_list builtIn coerced,
    Scopes.enter, List.mapIdx_eq_zipIdx_map, List.map_map, List.flatMap_map,
    List.mapIdx_eq_zipIdx_map, List.map_eq_flatMap]
  exact List.flatMap_congr fun entry _ => isFilled (places_itemScope builtIn entry.1 entry.2 _)

end Listing

/-! ## The law of lists -/

/-- A tree shows some records: the elements with the class of the view are those of the records,
each once and in order, and their start tags are those with the class in its text; they hold the
positions without gaps, and the marks of the first are those of the first only. -/
structure View.Shows (view : View) (listing : Listing) (records : List Json.Members)
    (body : Html) : Prop where
  blocks : Html.withClass view.className [body] =
    records.mapIdx fun index record => view.block (listing.shown record) index
  tags : (startTags body.render).filter (·.hasClass view.className) =
    records.mapIdx fun index record => (view.block (listing.shown record) index).readTag
  positions : ∀ name ∈ view.indexAttribute,
    (Html.withClass view.className [body]).map (valuesUnder name) =
      (List.range records.length).map fun index => [toString index]
  marks : ∀ mark ∈ view.marks, (Html.withClass view.className [body]).map mark =
    (List.range records.length).map (· == 0)

theorem not_listed_container : ∀ listing ∈ listings, ∀ view ∈ listing.views,
    view.className ∉ Text.splitAt ' ' ("component " ++ listing.definition.type) := by
  decide

/-- The container of a component adds no elements with the class of a view. -/
theorem withClass_container {listing : Listing} (member : listing ∈ listings) {view : View}
    (isView : view ∈ listing.views) {node : Node} (isType : node.type = listing.definition.type)
    (inside : List Html) :
    Html.withClass view.className [container node (.row inside)] =
      Html.withClass view.className inside := by
  have lacks : (container node (.row inside)).readTag.hasClass view.className = false := by
    have isTag : (container node (.row inside)).readTag = containerTag node :=
      read_containerOpening node
    rw [isTag, containerTag, isType, StartTag.hasClass]
    simp [listsClass, not_listed_container listing member view isView]
  have isElement : (container node (.row inside)).elements =
      container node (.row inside) :: Html.elementsOf [.row inside] := rfl
  rw [Html.withClass_of_lacks view.className isElement lacks, Html.withClass_row]

/-- What the position of each element of a view decides is so for all of them in order. -/
theorem map_blocks {Result : Type} (view : View) (listing : Listing)
    (records : List Json.Members) {test : Html → Result} {verdict : Nat → Result}
    (isVerdict : ∀ shown index, test (view.block shown index) = verdict index) :
    (records.mapIdx fun index record => view.block (listing.shown record) index).map test =
      (List.range records.length).map verdict := by
  refine List.ext_getElem (by simp) fun index _ _ => ?_
  simp only [List.getElem_map, List.getElem_mapIdx, List.getElem_range, isVerdict]

/-- Each list is shown item by item. A component with pictures, tabs, slides, sections or questions
is rendered unless its type stores numbers and one of them is too large. What is rendered has, for
every record in the stored list, exactly one element of each kind, in the order of the list: it
shows the texts of the record, its position counts from 0 without gaps, and only the first is
marked as the first. -/
theorem items_shown_in_order {listing : Listing} (member : listing ∈ listings) {node : Node}
    (isType : node.type = listing.definition.type) :
    ((∃ fragment, Emitter.builtIn.emit node = .ok fragment) ↔
        ∀ key ∈ numberKeys node.type, ¬ HoldsOverflow node.props key) ∧
      ∀ fragment, Emitter.builtIn.emit node = .ok fragment → ∀ view ∈ listing.views,
        view.Shows listing (listing.records node) fragment.body := by
  have builtIn := Listing.isBuiltIn_of_mem listing member
  constructor
  · exact exists_emit_eq_ok_iff node
  · intro fragment emitted view isView
    obtain ⟨values, coerced⟩ := exists_coerced_of_emit builtIn.known isType emitted
    have isBody : fragment.body = container node
        (.row (listing.definition.markup.fill [listing.definition.scope node values])) := by
      have rendered := emit_of_coerced builtIn.known isType coerced
      rw [if_pos (missing_of_required_eq_nil builtIn.requiresNone values), emitted] at rendered
      rw [Except.ok.inj rendered]
      rfl
    have blocks : Html.withClass view.className [fragment.body] =
        (listing.records node).mapIdx fun index record =>
          view.block (listing.shown record) index := by
      rw [isBody, withClass_container member isView isType,
        Listing.withClass_markup builtIn (fills_of_mem listing member view isView) coerced]
    have isText : startTags fragment.body.render = fragment.body.openings.map Opening.read := by
      have tags := startTags_emitOrSubstitute node
      rwa [Emitter.emitOrSubstitute, emitted] at tags
    refine ⟨blocks, ?_, fun name isName => ?_, fun mark isMark => ?_⟩
    · rw [Html.filter_startTags isText, blocks, List.mapIdx_eq_zipIdx_map, List.map_map,
        List.mapIdx_eq_zipIdx_map]
      rfl
    · rw [blocks]
      exact map_blocks view listing _ fun shown index =>
        valuesUnder_block shown index listing member view isView name isName
    · rw [blocks]
      exact map_blocks view listing _ fun shown index =>
        mark_block shown index listing member view isView mark isMark

/-- The tabs of a component with two tabs and a number between them. -/
def twoTabs : Node :=
  ⟨"t", "tabs", [("tabs", .array
    [.object [("title", .text "A")], .int 7, .object [("content", .text "<b>")]])]⟩

/-- Of two tabs with a number between them, there are two buttons and two panels, and only the
first are active. -/
theorem items_shown_in_order_tabs :
    Listing.tabs ∈ listings ∧ twoTabs.type = Listing.tabs.definition.type ∧
      ∃ fragment, Emitter.builtIn.emit twoTabs = .ok fragment ∧
        (startTags fragment.body.render).filter (·.hasClass "tab-button") =
          [(tabButton.block (fun _ => "A") 0).readTag,
            (tabButton.block (fun _ => "Tab") 1).readTag] ∧
        (Html.withClass "tab-panel" [fragment.body]).map (valuesUnder "data-tab-index") =
          [["0"], ["1"]] ∧
        (Html.withClass "tab-panel" [fragment.body]).map isShown = [true, false] := by
  have member : Listing.tabs ∈ listings := by simp [listings]
  obtain ⟨rendered, shows⟩ := items_shown_in_order member (rfl : twoTabs.type = "tabs")
  have noNumbers : numberKeys twoTabs.type = [] := rfl
  obtain ⟨fragment, emitted⟩ := rendered.mpr (by simp [noNumbers])
  have buttons := shows fragment emitted tabButton (by simp [Listing.tabs])
  have panels := shows fragment emitted tabPanel (by simp [Listing.tabs])
  exact ⟨member, rfl, fragment, emitted, buttons.tags, panels.positions _ rfl,
    panels.marks isShown (by simp [tabPanel])⟩

end StaticSite.Emission
