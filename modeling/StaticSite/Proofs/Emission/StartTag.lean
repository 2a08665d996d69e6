import StaticSite.Proofs.Emission.ElementId
import StaticSite.Proofs.Markup.Origin

/-!
Contract: the start tags that a component gives to its page.

Owns:
- the start tag of the container of a component, as it is read;
- the law that they are those of the container, of a note, or of the template of its type, filled
  with the values of its props;
- the law that they are read back from the text of its markup.

Does not own: what these start tags hold.
-/

namespace StaticSite.Emission

open StaticSite.Component StaticSite.Markup StaticSite.Schema

def frameAttributes : List String :=
  ["id", "class", "data-component-id", "role"]

/-- A start tag that a component gives: that of its container or of a note, or one of its template
filled in the scope of its values. -/
inductive GivenBy (node : Node) : Opening → Prop where
  | frame {attributes : List Attribute}
      (known : ∀ written ∈ attributes, ∃ name ∈ frameAttributes, ∃ pieces,
        written = .valued name pieces) : GivenBy node ⟨"div", attributes⟩
  | filled {definition : Definition} {values : Json.Members} {opening : Opening}
      (member : definition ∈ catalogue)
      (coerced : coerceFields node.props definition.fields = .ok values)
      (comes : opening.ComesFrom [definition.scope node values] definition.markup.tags) :
      GivenBy node opening

theorem givenBy_unknownNote {node : Node} {type : String} {opening : Opening}
    (member : opening ∈ (unknownNote type).openings) : GivenBy node opening := by
  rw [List.mem_singleton.mp member]
  exact .frame (List.forall_mem_singleton.mpr ⟨"class", by decide, _, rfl⟩)

theorem givenBy_placeholder {node : Node} {message : String} {opening : Opening}
    (member : opening ∈ (placeholder message).openings) : GivenBy node opening := by
  rw [List.mem_singleton.mp member]
  exact .frame (List.forall_mem_cons.mpr ⟨⟨"class", by decide, _, rfl⟩,
    List.forall_mem_singleton.mpr ⟨"role", by decide, _, rfl⟩⟩)

theorem givenBy_of_shows {node : Node} {inner : Html} (shows : Shows node inner)
    {opening : Opening} (member : opening ∈ (trimmed inner).openings) : GivenBy node opening := by
  cases shows with
  | unknown _ => exact givenBy_unknownNote member
  | unreadable _ _ _ _ _ => exact givenBy_unknownNote member
  | incomplete _ _ _ _ _ => exact givenBy_placeholder member
  | complete definition isDefinition _ values coerced =>
      exact .filled isDefinition coerced (allComeFrom_fill definition.markup _ opening member)

/-- The start tag of the container of a component. -/
def containerOpening (node : Node) : Opening :=
  ⟨"div",
    [ .valued "id" [.literal "component-", .anywhere node.id],
      .valued "class" [.literal "component ", .anywhere node.type],
      .holding "data-component-id" node.id ]⟩

/-- The start tag of the container of a component, as it is read. -/
def containerTag (node : Node) : StartTag :=
  ⟨"div",
    [ ("id", some (containerId node)),
      ("class", some ("component " ++ node.type)),
      ("data-component-id", some node.id) ]⟩

theorem openings_container (node : Node) (inner : Html) :
    (container node inner).openings = containerOpening node :: (trimmed inner).openings := by
  rw [container, Html.sheet, Html.openings, Html.openingsOf, Html.openingsOf, List.append_nil]
  rfl

theorem read_containerOpening (node : Node) : (containerOpening node).read = containerTag node := by
  have isId : valueOf? [.literal "component-", .anywhere node.id] = some (containerId node) :=
    valueOf?_behind (by decide) node.id
  have isClass : valueOf? [.literal "component ", .anywhere node.type] =
      some ("component " ++ node.type) :=
    valueOf?_behind (by decide) node.type
  have names : foldedName "div".toList = "div" ∧ foldedName "id".toList = "id" ∧
      foldedName "class".toList = "class" ∧
      foldedName "data-component-id".toList = "data-component-id" := by
    decide
  obtain ⟨isDiv, idName, className, dataName⟩ := names
  rw [containerOpening, Opening.read, List.flatMap_cons, List.flatMap_cons, List.flatMap_singleton,
    read_holding, Attribute.read, Attribute.read, isId, isClass, isDiv, idName, className, dataName]
  rfl

/-- A component gives no start tags but those of its container, of notes and of its template. -/
theorem givenBy_of_mem_openings {node : Node} {opening : Opening}
    (member : opening ∈ (Emitter.builtIn.emitOrSubstitute node).body.openings) :
    GivenBy node opening := by
  obtain ⟨inner, shows, isBody⟩ := exists_shows_of_emitOrSubstitute node
  rw [isBody, openings_container] at member
  rcases List.mem_cons.mp member with rfl | inside
  · exact .frame (List.forall_mem_cons.mpr ⟨⟨"id", by decide, _, rfl⟩,
      List.forall_mem_cons.mpr ⟨⟨"class", by decide, _, rfl⟩,
        List.forall_mem_singleton.mpr ⟨"data-component-id", by decide, _, rfl⟩⟩⟩)
  · exact givenBy_of_shows shows inside

/-- The start tags in the text of a component are those of its tree. -/
theorem startTags_emitOrSubstitute (node : Node) :
    startTags (Emitter.builtIn.emitOrSubstitute node).body.render =
      (Emitter.builtIn.emitOrSubstitute node).body.openings.map Opening.read := by
  obtain ⟨ids, identifies, _⟩ := exists_identifies_emitOrSubstitute node
  exact (holds_renderAt identifies.readable.1 0).startTags_eq

/-- A component of a type that requires no props is rendered: its container, and in it the template
of its type, filled with its values. -/
theorem exists_emit_of_coerced {definition : Definition} (member : definition ∈ catalogue)
    (requiresNone : definition.required = []) {node : Node} (isType : node.type = definition.type)
    {values : Json.Members} (coerced : coerceFields node.props definition.fields = .ok values) :
    ∃ fragment, Emitter.builtIn.emit node = .ok fragment ∧
      startTags fragment.body.render = containerTag node ::
        (Html.openingsOf (definition.markup.fill [definition.scope node values])).map
          Opening.read := by
  have emitted := emit_of_coerced member isType coerced
  rw [if_pos (missing_of_required_eq_nil requiresNone values)] at emitted
  have isBody : (Emitter.contribution node (definition.complete node values)).body =
      container node (.row (definition.markup.fill [definition.scope node values])) :=
    rfl
  have isTree : (trimmed (.row (definition.markup.fill [definition.scope node values]))).openings =
      Html.openingsOf (definition.markup.fill [definition.scope node values]) :=
    rfl
  have tags := startTags_emitOrSubstitute node
  simp only [Emitter.emitOrSubstitute, emitted, isBody] at tags
  refine ⟨_, emitted, ?_⟩
  rw [isBody, tags, openings_container, isTree, List.map_cons, read_containerOpening]

end StaticSite.Emission
