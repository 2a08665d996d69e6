import StaticSite.Proofs.Emission.Renderer
import StaticSite.Proofs.Schema.Order

/-!
Contract: components whose props list members in another order.

Owns:
- components that differ in the order of members alone, and agree on the order of the platforms of
  the profiles in a team;
- the law that the built-in renderers give such components the same fragment;
- emitters whose further renderers do so too, and the law that they contribute the same.

Does not own: pages of such components (see `StaticSite.Proofs.Page.Order`).
-/

namespace StaticSite.Component

open StaticSite.Json StaticSite.Schema

/-! ## Components -/

/-- The platforms of the profiles of each member of a team, in the order in which they are stored.
Other components have none. -/
def platformOrders (node : Node) : List (List String) :=
  if node.type = Team.definition.type then
    match node.prop "members" with
    | .array members =>
        (recordsIn members).map fun member => namesOf ((member.lookup "social").getD .null)
    | _ => []
  else
    []

/-- Whether two components differ at most in the order in which objects in their props list their
members, where the platforms of profiles in a team are in the same order. -/
structure Node.Reorders (node other : Node) : Prop where
  sameId : node.id = other.id
  sameType : node.type = other.type
  props : Json.Reorders (.object node.props) (.object other.props)
  samePlatforms : platformOrders node = platformOrders other

theorem Node.Reorders.prop {node other : Node} (reorders : node.Reorders other) (name : String) :
    Json.Reorders (node.prop name) (other.prop name) :=
  reorders.props.member name

/-! ## The fields of the types -/

theorem allIgnoreOrder_of_mem_catalogue {definition : Definition} (member : definition ∈ catalogue)
    (noTeam : definition.type ≠ Team.definition.type) :
    allIgnoreOrder definition.fields = true := by
  have all : catalogue.all (fun definition =>
      definition.type == Team.definition.type || allIgnoreOrder definition.fields) = true := by
    decide
  have found := List.all_eq_true.mp all definition member
  rw [Bool.or_eq_true, beq_iff_eq] at found
  exact found.resolve_left noTeam

theorem eq_team_of_type {definition : Definition} (member : definition ∈ catalogue)
    (isTeam : definition.type = Team.definition.type) : definition = Team.definition := by
  have listed : Team.definition ∈ catalogue := by simp [catalogue]
  exact List.inj_on_of_nodup_map Emission.nodup_types_catalogue member listed isTeam

/-- The fields of a member of a team have the same values if the platforms are in the same
order. -/
theorem coerce_teamMember_eq {members others : Json.Members}
    (reorders : Json.Reorders (.object members) (.object others))
    (samePlatforms : namesOf ((members.lookup "social").getD .null) =
      namesOf ((others.lookup "social").getD .null)) :
    coerceFields members Team.memberFields = coerceFields others Team.memberFields := by
  refine coerceFields_congr fun field isField => ?_
  simp only [Team.memberFields, List.mem_cons, List.not_mem_nil, or_false] at isField
  rcases isField with rfl | rfl | rfl | rfl | rfl
  · exact Field.coerce_eq reorders rfl
  · exact Field.coerce_eq reorders rfl
  · exact Field.coerce_eq reorders rfl
  · exact Field.coerce_eq reorders rfl
  · rw [linksByPlatformField, Field.coerce, Field.coerce,
      coerce_linksByPlatform_eq (reorders.member "social") samePlatforms]

/-- The fields of a team have the same values if the platforms of its members are in the same
order. -/
theorem coerce_team_eq {node other : Node} (reorders : node.Reorders other)
    (isTeam : node.type = Team.definition.type) :
    coerceFields node.props Team.fields = coerceFields other.props Team.fields := by
  refine coerceFields_congr fun field isField => ?_
  simp only [Team.fields, List.mem_cons, List.not_mem_nil, or_false] at isField
  rcases isField with rfl | rfl
  · exact Field.coerce_eq reorders.props rfl
  · have samePlatforms := reorders.samePlatforms
    rw [platformOrders, platformOrders, if_pos isTeam, if_pos (reorders.sameType ▸ isTeam)]
      at samePlatforms
    have members := reorders.prop "members"
    rw [Node.prop, Node.prop] at members samePlatforms
    rw [recordsField, Field.coerce, Field.coerce]
    generalize (node.props.lookup "members").getD .null = stored at members samePlatforms ⊢
    generalize (other.props.lookup "members").getD .null = otherStored at members samePlatforms ⊢
    cases members with
    | scalar | object => rfl
    | @array items others inside =>
        have sameRecords : List.Forall₂ (fun members others =>
            (coerceFields members Team.memberFields).map Json.object =
              (coerceFields others Team.memberFields).map Json.object)
            (recordsIn items) (recordsIn others) :=
          List.Forall₂.mp (fun _ _ reordersRecord sameOrder =>
            congrArg (Except.map Json.object) (coerce_teamMember_eq reordersRecord sameOrder))
            (recordsIn_reorders inside) (Related.map_eq_map_iff.mp samePlatforms)
        rw [Kind.coerce, Kind.coerce, Related.mapM_eq_mapM sameRecords]

/-- The fields of every type have the same values. -/
theorem Node.Reorders.coerce_eq {node other : Node} (reorders : node.Reorders other)
    {definition : Definition} (member : definition ∈ catalogue)
    (isType : definition.type = node.type) :
    coerceFields node.props definition.fields = coerceFields other.props definition.fields := by
  by_cases isTeam : definition.type = Team.definition.type
  · obtain rfl := eq_team_of_type member isTeam
    exact coerce_team_eq reorders isType.symm
  · exact coerceFields_eq reorders.props definition.fields
      (allIgnoreOrder_of_mem_catalogue member isTeam)

end StaticSite.Component

namespace StaticSite.Emission

open StaticSite.Component

/-! ## Contributions -/

theorem sizeText_eq {stored other : Json} (same : Json.Reorders stored other)
    (fallback : String) : sizeText stored fallback = sizeText other fallback := by
  cases same with
  | scalar | array | object => rfl

section Contributions

variable {node other : Node} (reorders : node.Reorders other)

include reorders

theorem fragment_eq {definition : Definition} (member : definition ∈ catalogue)
    (isType : definition.type = node.type) :
    definition.fragment node = definition.fragment other := by
  have sameValues := reorders.coerce_eq member isType
  obtain ⟨id, type, props⟩ := node
  obtain ⟨_, _, otherProps⟩ := other
  obtain rfl : id = _ := reorders.sameId
  obtain rfl : type = _ := reorders.sameType
  rw [Definition.fragment, Definition.fragment, sameValues]
  rfl

theorem sizeLines_eq : sizeLines node = sizeLines other := by
  have responsive := reorders.prop "responsive"
  rw [sizeLines, sizeLines, sizeText_eq (reorders.prop "maxWidth"),
    sizeText_eq (reorders.prop "margin"), sizeText_eq (reorders.prop "padding")]
  generalize node.prop "responsive" = stored at responsive ⊢
  generalize other.prop "responsive" = otherStored at responsive ⊢
  cases responsive with
  | scalar | array | object => rfl

theorem customLines_eq : customLines node = customLines other := by
  have custom := reorders.prop "customCSS"
  rw [customLines, customLines]
  generalize node.prop "customCSS" = stored at custom ⊢
  generalize other.prop "customCSS" = otherStored at custom ⊢
  cases custom with
  | scalar | array | object => rfl

theorem baseRule_eq : baseRule node = baseRule other := by
  rw [baseRule, baseRule, containerSelector, containerSelector, sizeLines_eq reorders,
    customLines_eq reorders, reorders.sameId, reorders.sameType]

theorem container_eq (body : Markup.Html) : container node body = container other body := by
  rw [container, container, reorders.sameId, reorders.sameType]

end Contributions

/-! ## Emitters -/

/-- Whether a renderer gives the same for components that differ in the order of members alone. -/
def Renderer.IgnoresOrder (renderer : Renderer) : Prop :=
  ∀ node other : Node, node.Reorders other → renderer node = renderer other

/-- Whether every renderer of an emitter is the built-in one for its type or ignores the order of
members. -/
def Emitter.IgnoresOrder (emitter : Emitter) : Prop :=
  ∀ type renderer, emitter.renderers.lookup type = some renderer →
    Emitter.builtIn.renderers.lookup type = some renderer ∨ renderer.IgnoresOrder

theorem ignoresOrder_builtIn : Emitter.builtIn.IgnoresOrder :=
  fun _ _ found => Or.inl found

/-- Components that differ in the order of members alone contribute the same. -/
theorem emitOrSubstitute_eq {emitter : Emitter} (ignores : emitter.IgnoresOrder) {node other : Node}
    (reorders : node.Reorders other) :
    emitter.emitOrSubstitute node = emitter.emitOrSubstitute other := by
  have sameSubstitute (warning : Option Warning) :
      Emitter.substitute node warning = Emitter.substitute other warning := by
    rw [Emitter.substitute, Emitter.substitute, container_eq reorders, baseRule_eq reorders,
      reorders.sameType]
  have sameContribution (inner : Fragment) :
      Emitter.contribution node inner = Emitter.contribution other inner := by
    rw [Emitter.contribution, Emitter.contribution, container_eq reorders, baseRule_eq reorders]
  rw [Emitter.emitOrSubstitute, Emitter.emitOrSubstitute, Emitter.emit, Emitter.emit,
    ← reorders.sameType]
  cases found : emitter.renderers.lookup node.type with
  | none =>
      have sameWarning : Emitter.unknownType node = Emitter.unknownType other := by
        rw [Emitter.unknownType, Emitter.unknownType, reorders.sameId, reorders.sameType]
      rw [sameWarning]
      exact sameSubstitute _
  | some renderer =>
      have sameRendering : renderer node = renderer other := by
        rcases ignores node.type renderer found with isBuiltIn | ignoresOrder
        · obtain ⟨definition, member, isType, rfl⟩ :=
            (lookup_builtIn_iff node.type renderer).mp isBuiltIn
          rw [rendererOf, rendererOf, fragment_eq reorders member isType]
        · exact ignoresOrder node other reorders
      dsimp only
      rw [← sameRendering]
      cases renderer node with
      | ok inner => exact sameContribution inner
      | error cause =>
          rw [← reorders.sameId]
          exact sameSubstitute _

end StaticSite.Emission
