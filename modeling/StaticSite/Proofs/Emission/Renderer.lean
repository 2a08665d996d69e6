import StaticSite.Emission.Emitter
import StaticSite.Proofs.Association

/-!
Contract: the renderers of the built-in types.

Owns:
- the renderer of a type, which is that of its definition;
- the contribution of a component whose props can be coerced, and of one whose type is not known;
- the forms that the markup of a component can have.

Does not own: failures of renderers (see `StaticSite.Proofs.Emission.Totality`).
-/

namespace StaticSite.Emission

open StaticSite.Component StaticSite.Markup StaticSite.Schema

/-! ## The definition of a type -/

theorem nodup_types_catalogue : (catalogue.map Definition.type).Nodup := by
  decide

theorem lookup_builtIn_iff (type : String) (renderer : Renderer) :
    Emitter.builtIn.renderers.lookup type = some renderer ↔
      ∃ definition ∈ catalogue, definition.type = type ∧ rendererOf definition = renderer := by
  have distinct : (Emitter.builtIn.renderers.map Prod.fst).Nodup := nodup_types_catalogue
  rw [Association.lookup_eq_some_iff_of_nodup distinct, Emitter.builtIn, List.mem_map]
  simp only [Prod.mk.injEq]

theorem lookup_builtIn_eq_none_iff (type : String) :
    Emitter.builtIn.renderers.lookup type = none ↔
      ∀ definition ∈ catalogue, definition.type ≠ type := by
  constructor
  · intro notFound definition member isType
    have found := (lookup_builtIn_iff type (rendererOf definition)).mpr
      ⟨definition, member, isType, rfl⟩
    rw [notFound] at found
    cases found
  · intro unknown
    cases found : Emitter.builtIn.renderers.lookup type with
    | none => rfl
    | some renderer =>
        obtain ⟨definition, member, isType, _⟩ := (lookup_builtIn_iff type renderer).mp found
        exact absurd isType (unknown definition member)

/-! ## The contribution of a component -/

theorem fragment_of_coerced {definition : Definition} {node : Node} {values : Json.Members}
    (coerced : coerceFields node.props definition.fields = .ok values) :
    definition.fragment node =
      .ok (if definition.missing values = [] then definition.complete node values
        else definition.incomplete node (definition.missing values)) := by
  rw [Definition.fragment, coerced]
  cases lacks : definition.missing values with
  | nil => simp only [Except.map, lacks, if_true]
  | cons name others => simp only [Except.map, lacks, List.cons_ne_nil, if_false]

/-- A component of a known type gives its fragment if its props can be coerced. -/
theorem emit_of_coerced {definition : Definition} (member : definition ∈ catalogue) {node : Node}
    (isType : node.type = definition.type) {values : Json.Members}
    (coerced : coerceFields node.props definition.fields = .ok values) :
    Emitter.builtIn.emit node = .ok (Emitter.contribution node
      (if definition.missing values = [] then definition.complete node values
        else definition.incomplete node (definition.missing values))) := by
  have found := (lookup_builtIn_iff node.type (rendererOf definition)).mpr
    ⟨definition, member, isType.symm, rfl⟩
  rw [Emitter.emit, found]
  simp only [rendererOf, fragment_of_coerced coerced, Except.mapError]

/-- The props of a component of a known type can be coerced if it is rendered. -/
theorem exists_coerced_of_emit {definition : Definition} (member : definition ∈ catalogue)
    {node : Node} (isType : node.type = definition.type) {fragment : Fragment}
    (emitted : Emitter.builtIn.emit node = .ok fragment) :
    ∃ values, coerceFields node.props definition.fields = .ok values := by
  cases coerced : coerceFields node.props definition.fields with
  | ok values => exact ⟨values, rfl⟩
  | error error =>
      have found := (lookup_builtIn_iff node.type (rendererOf definition)).mpr
        ⟨definition, member, isType.symm, rfl⟩
      rw [Emitter.emit, found] at emitted
      simp only [rendererOf, Definition.fragment, coerced, Except.map, Except.mapError] at emitted
      cases emitted

/-- A component of a type that is not known is substituted. -/
theorem emit_of_unknown {node : Node}
    (unknown : ∀ definition ∈ catalogue, definition.type ≠ node.type) :
    Emitter.builtIn.emit node =
      .ok (Emitter.substitute node (some (Emitter.unknownType node))) := by
  rw [Emitter.emit, (lookup_builtIn_eq_none_iff node.type).mpr unknown]

/-! ## The markup of a component -/

/-- Markup that stands inside the container of a component: a filled template, or a note in
its place. -/
inductive Inner (node : Node) : Html → Prop where
  | filled (definition : Definition) (member : definition ∈ catalogue) (scopes : Scopes) :
      Inner node (.row (definition.markup.fill scopes))
  | placeholder (message : String) : Inner node (placeholder message)
  | unknown : Inner node (unknownNote node.type)

/-- A definition gives a filled template or a placeholder. -/
theorem inner_of_fragment {definition : Definition} (member : definition ∈ catalogue)
    {node : Node} {fragment : Fragment} (rendered : definition.fragment node = .ok fragment) :
    Inner node fragment.body := by
  unfold Definition.fragment at rendered
  cases coerced : coerceFields node.props definition.fields with
  | error error =>
      rw [coerced] at rendered
      cases rendered
  | ok values =>
      rw [coerced] at rendered
      have isFragment := Except.ok.inj rendered
      rw [← isFragment]
      beta_reduce
      split
      · exact .filled definition member [definition.scope node values]
      · exact .placeholder _

/-- The built-in renderers put a filled template or a note into the container of a
component, whether or not rendering it fails. -/
theorem exists_inner_of_emitOrSubstitute (node : Node) :
    ∃ inner, Inner node inner ∧
      (Emitter.builtIn.emitOrSubstitute node).body = container node inner := by
  unfold Emitter.emitOrSubstitute Emitter.emit
  cases found : Emitter.builtIn.renderers.lookup node.type with
  | none => exact ⟨_, .unknown, rfl⟩
  | some renderer =>
      obtain ⟨definition, member, _, rfl⟩ := (lookup_builtIn_iff node.type renderer).mp found
      cases rendered : definition.fragment node with
      | error error =>
          simp only [rendererOf, rendered, Except.mapError]
          exact ⟨_, .unknown, rfl⟩
      | ok fragment =>
          simp only [rendererOf, rendered, Except.mapError]
          exact ⟨_, inner_of_fragment member rendered, rfl⟩

end StaticSite.Emission
