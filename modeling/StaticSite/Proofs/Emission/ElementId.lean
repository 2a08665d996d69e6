import StaticSite.Proofs.Emission.Totality
import StaticSite.Proofs.Markup.IdTree
import StaticSite.Proofs.Schema.Coerced

/-!
Contract: the ids of the elements of a component.

Owns:
- the ids that the types of components give to elements inside their containers;
- the law that the markup of a component gives these ids and no others, whatever its props.

Does not own: which ids a page gives twice (see `StaticSite.Proofs.Page.DistinctIds`).
-/

namespace StaticSite.Emission

open StaticSite.Component StaticSite.Markup StaticSite.Schema

/-! ## The ids of a component -/

/-- The id of the container of a component. -/
def containerId (node : Node) : String :=
  "component-" ++ node.id

/-- What follows the id of a component in the ids of the fields that its type asks for. -/
def fieldEndings (type : String) : List String :=
  if type = "form" ∨ type = "contact" then ["-name", "-email", "-message"]
  else if type = "ecommerce-product" then ["-quantity"]
  else []

/-- The ids of the fields of a component. -/
def fieldIds (node : Node) : List String :=
  (fieldEndings node.type).map fun ending => node.id ++ ending

/-- The id of the dialog that a component opens. -/
def dialogIds (node : Node) : List String :=
  if node.type = "modal" then ["modal-" ++ node.id] else []

/-- The id of the title of a dialog. -/
def titleIds (node : Node) : List String :=
  if node.type = "modal" then ["modal-" ++ node.id ++ "-title"] else []

/-- The name that the props of a map give to it. -/
def mapName (node : Node) : String :=
  if textOf (node.prop "id") == "" then "default" else textOf (node.prop "id")

/-- The name of the map that a component shows, unless its numbers cannot be read. -/
def mapNames (node : Node) : List String :=
  if node.type = "map" then
    match coerceFields node.props LocationMap.fields with
    | .ok _ => [mapName node]
    | .error _ => []
  else
    []

/-- The id of the map that a component shows. -/
def mapIds (node : Node) : List String :=
  (mapNames node).map fun name => "map-" ++ name

/-- The ids inside the container of a component. -/
def innerIds (node : Node) : List String :=
  fieldIds node ++ dialogIds node ++ titleIds node ++ mapIds node

/-! ## Types that give ids -/

/-- Whether a type gives ids to elements inside its container. -/
def givesIds (type : String) : Bool :=
  !(fieldEndings type).isEmpty || type == "modal" || type == "map"

/-- The definitions of the types that give ids. -/
def idDefinitions : List Definition :=
  [LocationMap.definition, Form.definition, Contact.definition, Modal.definition,
    Product.definition]

theorem filter_givesIds :
    (catalogue.filter fun definition => givesIds definition.type) = idDefinitions := by
  rfl

/-- The values of the id attributes in the markup of a type. -/
def idPartsOf (type : String) : List (List Part) :=
  ((fieldEndings type).map fun ending => [.value "component_id", .literal ending]) ++
    (if type = "modal" then
      [ [.literal "modal-", .value "component_id"],
        [.literal "modal-", .value "component_id", .literal "-title"] ]
    else []) ++
    (if type = "map" then [[.literal "map-", .value "map_id"]] else [])

theorem isReadable_of_mem_catalogue :
    ∀ definition ∈ catalogue, definition.markup.isReadable = true := by
  decide +kernel

theorem idParts_of_mem_idDefinitions :
    ∀ definition ∈ idDefinitions, definition.markup.idParts = idPartsOf definition.type := by
  simp only [idDefinitions, List.forall_mem_cons]
  exact ⟨rfl, rfl, rfl, rfl, rfl, nofun⟩

theorem noIdParts_of_not_givesIds :
    ∀ definition ∈ catalogue, givesIds definition.type = false →
      definition.markup.idParts.isEmpty = true := by
  decide +kernel

/-- A type that gives ids requires no field, derives no value, and leaves the name of the id to
the component. -/
theorem plain_of_mem_idDefinitions :
    ∀ definition ∈ idDefinitions, definition.required = [] ∧
      (∀ values, definition.derive values = values) ∧
      "component_id" ∉ definition.fields.map Field.name := by
  simp only [idDefinitions, List.forall_mem_cons]
  exact ⟨⟨rfl, fun _ => rfl, by decide⟩, ⟨rfl, fun _ => rfl, by decide⟩,
    ⟨rfl, fun _ => rfl, by decide⟩, ⟨rfl, fun _ => rfl, by decide⟩,
    ⟨rfl, fun _ => rfl, by decide⟩, nofun⟩

theorem isMap_of_anyHoldsNumber :
    ∀ definition ∈ idDefinitions, anyHoldsNumber definition.fields = true →
      definition.type = "map" := by
  decide +kernel

theorem fields_of_isMap :
    ∀ definition ∈ idDefinitions, definition.type = "map" →
      definition.fields = LocationMap.fields := by
  simp only [idDefinitions, List.forall_mem_cons]
  exact ⟨fun _ => rfl, fun isMap => absurd isMap (by decide), fun isMap => absurd isMap (by decide),
    fun isMap => absurd isMap (by decide), fun isMap => absurd isMap (by decide), nofun⟩

theorem mem_idDefinitions {definition : Definition} (member : definition ∈ catalogue)
    (gives : givesIds definition.type = true) : definition ∈ idDefinitions := by
  rw [← filter_givesIds]
  exact List.mem_filter.mpr ⟨member, gives⟩

theorem exists_of_givesIds {type : String} (gives : givesIds type = true) :
    ∃ definition ∈ catalogue, definition.type = type := by
  have known : ∀ name ∈ ["form", "contact", "ecommerce-product", "modal", "map"],
      (catalogue.any fun definition => definition.type == name) = true := by decide
  have isKnown : type ∈ ["form", "contact", "ecommerce-product", "modal", "map"] := by
    simp only [givesIds, fieldEndings] at gives
    split at gives
    · rename_i isForm
      rcases isForm with rfl | rfl
      · decide
      · decide
    · split at gives
      · rename_i isProduct
        rw [isProduct]
        decide
      · have isLast : type = "modal" ∨ type = "map" := by simpa using gives
        rcases isLast with rfl | rfl
        · decide
        · decide
  obtain ⟨definition, member, isType⟩ := List.any_eq_true.mp (known type isKnown)
  exact ⟨definition, member, beq_iff_eq.mp isType⟩

theorem innerIds_of_not_givesIds {node : Node} (givesNone : givesIds node.type = false) :
    innerIds node = [] := by
  simp only [givesIds, Bool.or_eq_false_iff, Bool.not_eq_false', List.isEmpty_iff,
    beq_eq_false_iff_ne] at givesNone
  obtain ⟨⟨noField, notModal⟩, notMap⟩ := givesNone
  simp [innerIds, fieldIds, dialogIds, titleIds, mapIds, mapNames, noField, notModal, notMap]

/-! ## The values of a component -/

/-- The id of a component in the scope of its markup. -/
theorem lookup_component_id {definition : Definition} (member : definition ∈ idDefinitions)
    {node : Node} {values : Json.Members}
    (coerced : coerceFields node.props definition.fields = .ok values) :
    Scopes.lookup [definition.scope node values] "component_id" = .text node.id := by
  obtain ⟨_, derivesNothing, notField⟩ := plain_of_mem_idDefinitions definition member
  rw [← names_coerceFields coerced] at notField
  have found : (values ++ [("component_id", Json.text node.id)]).lookup "component_id" =
      some (.text node.id) := by
    rw [List.lookup_append, Association.lookup_eq_none_of_not_mem notField]
    rfl
  simp only [Scopes.lookup, Definition.scope, derivesNothing, List.findSome?_cons, Json.member?,
    found, Option.getD_some]

/-- The name of a map in the scope of its markup. -/
theorem lookup_map_id {definition : Definition} (member : definition ∈ idDefinitions)
    (isMap : definition.type = "map") {node : Node} {values : Json.Members}
    (coerced : coerceFields node.props definition.fields = .ok values) :
    Scopes.lookup [definition.scope node values] "map_id" = .text (mapName node) := by
  obtain ⟨_, derivesNothing, _⟩ := plain_of_mem_idDefinitions definition member
  rw [fields_of_isMap definition member isMap, LocationMap.fields] at coerced
  obtain ⟨value, rest, isFirst, _, rfl⟩ := coerceFields_cons_ok coerced
  rw [coerce_textField] at isFirst
  have isName : value = .text (mapName node) := (Prod.mk.inj (Except.ok.inj isFirst)).2.symm
  simp only [Scopes.lookup, Definition.scope, derivesNothing, isName]
  rfl

/-! ## The ids of the markup -/

/-- What the value of an attribute means, if no literal of it holds an entity. -/
theorem idOf_partsText {parts : List Part} (noEntity : ∀ text ∈ literalsOf parts, '&' ∉ text.toList)
    (scopes : Scopes) :
    idOf (partsText scopes parts) =
      String.ofList ((fillParts scopes parts).flatMap Piece.meaning) := by
  rw [partsText, idOf, decodeEntities_renderPieces]
  intro text member
  exact noEntity text (mem_literalsOf_of_mem_fillParts parts scopes member)

section Scope

variable {scopes : Scopes} {name value : String} (known : scopes.lookup name = .text value)

include known

theorem meaning_value : (Part.fill scopes (.value name)).flatMap Piece.meaning = value.toList := by
  simp only [Part.fill, known]
  exact List.append_nil value.toList

/-- An id with a fixed start and a fixed ending. -/
theorem idOf_between {start ending : String} (plainStart : '&' ∉ start.toList)
    (plainEnding : '&' ∉ ending.toList) :
    idOf (partsText scopes [.literal start, .value name, .literal ending]) =
      start ++ value ++ ending := by
  rw [idOf_partsText (by simp [literalsOf, Part.literals, plainStart, plainEnding])]
  apply String.toList_inj.mp
  simp only [fillParts, List.flatMap_append, meaning_value known]
  simp [Part.fill, Piece.meaning]

theorem idOf_start {start : String} (plain : '&' ∉ start.toList) :
    idOf (partsText scopes [.literal start, .value name]) = start ++ value := by
  rw [idOf_partsText (by simp [literalsOf, Part.literals, plain])]
  apply String.toList_inj.mp
  simp only [fillParts, List.flatMap_append, meaning_value known]
  simp [Part.fill, Piece.meaning]

theorem idOf_ending {ending : String} (plain : '&' ∉ ending.toList) :
    idOf (partsText scopes [.value name, .literal ending]) = value ++ ending := by
  rw [idOf_partsText (by simp [literalsOf, Part.literals, plain])]
  apply String.toList_inj.mp
  simp only [fillParts, List.flatMap_append, meaning_value known]
  simp [Part.fill, Piece.meaning]

end Scope

theorem ampersand_not_mem_fieldEndings (type : String) :
    ∀ ending ∈ fieldEndings type, '&' ∉ ending.toList := by
  unfold fieldEndings
  split
  · decide
  · split
    · decide
    · exact nofun

/-- The ids that the markup of a type gives in the scope of a component. -/
theorem map_idOf_idPartsOf {node : Node} {scopes : Scopes}
    (isId : scopes.lookup "component_id" = .text node.id)
    (isName : node.type = "map" →
      scopes.lookup "map_id" = .text (mapName node) ∧ mapNames node = [mapName node]) :
    ((idPartsOf node.type).map (partsText scopes)).map idOf = innerIds node := by
  have fields : (((fieldEndings node.type).map fun ending =>
      [Part.value "component_id", .literal ending]).map (partsText scopes)).map idOf =
        fieldIds node := by
    rw [List.map_map, List.map_map, fieldIds]
    apply List.map_congr_left
    intro ending member
    exact idOf_ending isId (ampersand_not_mem_fieldEndings node.type ending member)
  have dialogs : ((if node.type = "modal" then
      [ [.literal "modal-", .value "component_id"],
        [.literal "modal-", .value "component_id", .literal "-title"] ]
      else []).map (partsText scopes)).map idOf = dialogIds node ++ titleIds node := by
    unfold dialogIds titleIds
    split
    · simp only [List.map_cons, List.map_nil, idOf_start isId (by decide : '&' ∉ "modal-".toList),
        idOf_between isId (by decide : '&' ∉ "modal-".toList)
          (by decide : '&' ∉ "-title".toList), List.cons_append, List.nil_append]
    · rfl
  have maps : ((if node.type = "map" then [[Part.literal "map-", .value "map_id"]] else []).map
      (partsText scopes)).map idOf = mapIds node := by
    unfold mapIds
    split
    · rename_i isMap
      obtain ⟨isKnown, isShown⟩ := isName isMap
      rw [isShown]
      simp only [List.map_cons, List.map_nil, idOf_start isKnown (by decide : '&' ∉ "map-".toList)]
    · rename_i notMap
      simp only [mapNames, notMap, if_false, List.map_nil]
  rw [idPartsOf, List.map_append, List.map_append, List.map_append, List.map_append, fields,
    dialogs, maps, innerIds, List.append_assoc (fieldIds node) (dialogIds node) (titleIds node)]

/-! ## The markup of a component -/

/-- What a component shows in its container: a note for an unknown type, for props that cannot be
read or for missing ones, and otherwise its filled markup. -/
inductive Shows (node : Node) : Html → Prop where
  | unknown (noDefinition : ∀ definition ∈ catalogue, definition.type ≠ node.type) :
      Shows node (unknownNote node.type)
  | unreadable (definition : Definition) (member : definition ∈ catalogue)
      (isType : definition.type = node.type) (error : CoercionError)
      (failed : coerceFields node.props definition.fields = .error error) :
      Shows node (unknownNote node.type)
  | incomplete (definition : Definition) (member : definition ∈ catalogue)
      (isType : definition.type = node.type) (requires : definition.required ≠ [])
      (message : String) : Shows node (placeholder message)
  | complete (definition : Definition) (member : definition ∈ catalogue)
      (isType : definition.type = node.type) (values : Json.Members)
      (coerced : coerceFields node.props definition.fields = .ok values) :
      Shows node (.row (definition.markup.fill [definition.scope node values]))

theorem missing_of_required_eq_nil {definition : Definition}
    (requiresNone : definition.required = []) (values : Json.Members) :
    definition.missing values = [] := by
  rw [Definition.missing, requiresNone]
  rfl

theorem exists_shows_of_emitOrSubstitute (node : Node) :
    ∃ inner, Shows node inner ∧
      (Emitter.builtIn.emitOrSubstitute node).body = container node inner := by
  unfold Emitter.emitOrSubstitute Emitter.emit
  cases found : Emitter.builtIn.renderers.lookup node.type with
  | none => exact ⟨_, .unknown ((lookup_builtIn_eq_none_iff node.type).mp found), rfl⟩
  | some renderer =>
      obtain ⟨definition, member, isType, rfl⟩ := (lookup_builtIn_iff node.type renderer).mp found
      cases coerced : coerceFields node.props definition.fields with
      | error error =>
          simp only [rendererOf, Definition.fragment, coerced, Except.map, Except.mapError]
          exact ⟨_, .unreadable definition member isType error coerced, rfl⟩
      | ok values =>
          simp only [rendererOf, Definition.fragment, coerced, Except.map, Except.mapError]
          split
          · exact ⟨_, .complete definition member isType values coerced, rfl⟩
          · rename_i isMissing
            refine ⟨_, .incomplete definition member isType ?_ _, rfl⟩
            intro requiresNone
            exact isMissing (missing_of_required_eq_nil requiresNone values)

/-- A note gives no ids. -/
theorem identifies_note {attributes : List Attribute} {pieces : List Piece}
    (readable : attributes.all Attribute.isReadable = true)
    (noId : attributeIds attributes = []) (plain : pieces.all Piece.isPlain = true) :
    Identifies [.element "div" attributes [.text pieces]] [] := by
  have opens : Html.Opens "div" attributes := ⟨by decide, readable⟩
  have note := (identifies_singleton (.text pieces) plain).element opens (by decide)
  rw [noId] at note
  exact note

theorem identifies_unknownNote (type : String) : Identifies [unknownNote type] [] := by
  apply identifies_note
  · decide
  · decide
  · rfl

theorem identifies_placeholder (message : String) : Identifies [placeholder message] [] := by
  apply identifies_note
  · decide
  · decide
  · rfl

/-- Props that cannot be read give no ids inside the container. -/
theorem innerIds_of_unreadable {definition : Definition} (member : definition ∈ catalogue)
    {node : Node} (isType : definition.type = node.type) {error : CoercionError}
    (failed : coerceFields node.props definition.fields = .error error) : innerIds node = [] := by
  cases gives : givesIds node.type with
  | false => exact innerIds_of_not_givesIds gives
  | true =>
      rw [← isType] at gives
      have given := mem_idDefinitions member gives
      cases error with
      | integerTooLarge =>
          -- Only numbers are too large, and of the types with ids only the map has some.
          obtain ⟨field, isField, rejects⟩ := (coerceFields_eq_error_iff _ _).mp failed
          have holds := anyHoldsNumber_of_mem isField (holdsNumber_of_rejects rejects)
          have isMap := isMap_of_anyHoldsNumber definition given holds
          rw [fields_of_isMap definition given isMap] at failed
          rw [isType] at isMap
          have noField : fieldIds node = [] := by
            rw [fieldIds, isMap]
            rfl
          have noDialog : dialogIds node = [] ∧ titleIds node = [] := by
            simp [dialogIds, titleIds, isMap]
          have noMap : mapIds node = [] := by
            simp [mapIds, mapNames, isMap, failed]
          rw [innerIds, noField, noDialog.1, noDialog.2, noMap]
          rfl

theorem not_givesIds_of_requires {definition : Definition} (member : definition ∈ catalogue)
    (requires : definition.required ≠ []) : givesIds definition.type = false := by
  apply Bool.eq_false_iff.mpr
  intro gives
  exact requires (plain_of_mem_idDefinitions definition (mem_idDefinitions member gives)).1

/-- What a component shows gives the ids inside its container. -/
theorem exists_identifies_of_shows {node : Node} {inner : Html} (shows : Shows node inner) :
    ∃ ids, Identifies [trimmed inner] ids ∧ ids.map idOf = innerIds node := by
  cases shows with
  | unknown noDefinition =>
      have givesNone : givesIds node.type = false := by
        apply Bool.eq_false_iff.mpr
        intro gives
        obtain ⟨definition, member, isType⟩ := exists_of_givesIds gives
        exact noDefinition definition member isType
      exact ⟨[], identifies_unknownNote node.type, (innerIds_of_not_givesIds givesNone).symm⟩
  | unreadable definition member isType error failed =>
      exact ⟨[], identifies_unknownNote node.type,
        (innerIds_of_unreadable member isType failed).symm⟩
  | incomplete definition member isType requires message =>
      have givesNone := not_givesIds_of_requires member requires
      rw [isType] at givesNone
      exact ⟨[], identifies_placeholder message, (innerIds_of_not_givesIds givesNone).symm⟩
  | complete definition member isType values coerced =>
      have filled := identifies_fill definition.markup [definition.scope node values]
        (isReadable_of_mem_catalogue definition member)
      refine ⟨_, filled.row, ?_⟩
      cases gives : givesIds definition.type with
      | false =>
          have noParts := noIdParts_of_not_givesIds definition member gives
          rw [List.isEmpty_iff.mp noParts]
          rw [isType] at gives
          exact (innerIds_of_not_givesIds gives).symm
      | true =>
          have given := mem_idDefinitions member gives
          rw [idParts_of_mem_idDefinitions definition given, isType]
          -- The props decide the name of a map and nothing else about the ids.
          apply map_idOf_idPartsOf (lookup_component_id given coerced)
          intro isMap
          have isMapType : definition.type = "map" := isType.trans isMap
          have coercedMap := coerced
          rw [fields_of_isMap definition given isMapType] at coercedMap
          constructor
          · exact lookup_map_id given isMapType coerced
          · simp only [mapNames, isMap, if_true, coercedMap]

/-- The container of a component gives its own id, and then those inside. -/
theorem exists_identifies_emitOrSubstitute (node : Node) :
    ∃ ids, Identifies [(Emitter.builtIn.emitOrSubstitute node).body] ids ∧
      ids.map idOf = containerId node :: innerIds node := by
  obtain ⟨inner, shows, isBody⟩ := exists_shows_of_emitOrSubstitute node
  obtain ⟨ids, inside, areIds⟩ := exists_identifies_of_shows shows
  have opens : Html.Opens "div"
      [ .valued "id" [.literal "component-", .anywhere node.id],
        .valued "class" [.literal "component ", .anywhere node.type],
        .holding "data-component-id" node.id ] := ⟨by decide, rfl⟩
  have isId : idOf (renderPieces [.literal "component-", .anywhere node.id]).toList =
      containerId node := by
    rw [idOf, decodeEntities_renderPieces (by simp)]
    apply String.toList_inj.mp
    simp [Piece.meaning, containerId]
  rw [isBody]
  refine ⟨_, inside.block opens (by decide), ?_⟩
  rw [List.map_append, areIds]
  show idOf _ :: innerIds node = _
  rw [isId]

end StaticSite.Emission
