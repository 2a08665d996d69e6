import StaticSite.Proofs.Emission.Derivation
import StaticSite.Proofs.Emission.Renderer
import StaticSite.Proofs.Schema.Agreement

/-!
Contract: the marks in the markup of a component.

Owns:
- the law that derived values are alike if the declared ones are;
- the law that the scopes of components whose values agree are alike to their template;
- the law that the marks in the markup of a component depend on nothing but its type and on what its
  values have in common with others that agree.

Does not own: what a browser makes of the marks.
-/

namespace StaticSite.Emission

open StaticSite.Component StaticSite.Markup StaticSite.Schema

/-! ## Derived values -/

section Derived

variable {names : List String}

/-- Binding a name to alike values keeps records alike. -/
theorem alike_bind {left right : Json.Members}
    (alike : Alike names (.object left) (.object right)) (name : String) {value other : Json}
    (alikeValue : name ∈ names → Alike names value other) :
    Alike names (.object (Association.bind name value left))
      (.object (Association.bind name other right)) := by
  cases alike with
  | scalar noObject _ _ => cases noObject
  | object _ unbound bound =>
      refine .object ?_ ?_ ?_
      · rw [Association.isEmpty_bind, Association.isEmpty_bind]
      · intro found isName
        by_cases same : found = name
        · rw [same, Association.lookup_bind_self, Association.lookup_bind_self]
          exact ⟨nofun, nofun⟩
        · rw [Association.lookup_bind_of_ne same, Association.lookup_bind_of_ne same]
          exact unbound found isName
      · intro found isName foundValue foundOther isValue isOther
        by_cases same : found = name
        · rw [same, Association.lookup_bind_self] at isValue isOther
          rw [← Option.some.inj isValue, ← Option.some.inj isOther]
          exact alikeValue (same ▸ isName)
        · rw [Association.lookup_bind_of_ne same] at isValue isOther
          exact bound found isName foundValue foundOther isValue isOther

/-- A binding of a name on which no section depends keeps records alike. -/
theorem alike_append {left right : Json.Members}
    (alike : Alike names (.object left) (.object right)) {name : String} (apart : name ∉ names)
    (value other : Json) :
    Alike names (.object (left ++ [(name, value)])) (.object (right ++ [(name, other)])) := by
  have sameLookup : ∀ found ∈ names, ∀ (members : Json.Members) (content : Json),
      (members ++ [(name, content)]).lookup found = members.lookup found := by
    intro found isName members content
    have differs : (found == name) = false :=
      beq_eq_false_iff_ne.mpr fun same => apart (same ▸ isName)
    rw [List.lookup_append, List.lookup_cons, differs, List.lookup_nil, Option.or_none]
  cases alike with
  | scalar noObject _ _ => cases noObject
  | object _ unbound bound =>
      refine .object ?_ ?_ ?_
      · rw [List.isEmpty_eq_false_iff.mpr (List.append_ne_nil_of_right_ne_nil _ (List.cons_ne_nil _ _)),
          List.isEmpty_eq_false_iff.mpr (List.append_ne_nil_of_right_ne_nil _ (List.cons_ne_nil _ _))]
      · intro found isName
        rw [sameLookup found isName, sameLookup found isName]
        exact unbound found isName
      · intro found isName foundValue foundOther isValue isOther
        rw [sameLookup found isName] at isValue isOther
        exact bound found isName foundValue foundOther isValue isOther

/-- What keeps records alike keeps items alike. -/
theorem alike_changeRecord {change : Json.Members → Json.Members}
    (keeps : ∀ left right, Alike names (.object left) (.object right) →
      Alike names (.object (change left)) (.object (change right)))
    {item other : Json} (alike : Alike names item other) :
    Alike names (changeRecord change item) (changeRecord change other) := by
  have unchanged : ∀ value : Json, value.isScalar = true → changeRecord change value = value := by
    intro value scalar
    cases value with
    | object members => cases scalar
    | _ => rfl
  cases alike with
  | scalar leftScalar rightScalar same =>
      rw [unchanged item leftScalar, unchanged other rightScalar]
      exact .scalar leftScalar rightScalar same
  | array inside => exact .array inside
  | object same unbound bound => exact keeps _ _ (.object same unbound bound)

theorem alike_changeItems {change : Nat → Json.Members → Json.Members}
    (keeps : ∀ index left right, Alike names (.object left) (.object right) →
      Alike names (.object (change index left)) (.object (change index right)))
    {value other : Json} (alike : Alike names value other) :
    Alike names (changeItems (changeRecords change) value)
      (changeItems (changeRecords change) other) := by
  have unchanged : ∀ value : Json, value.isScalar = true →
      changeItems (changeRecords change) value = value := by
    intro value scalar
    cases value with
    | array items => cases scalar
    | _ => rfl
  cases alike with
  | scalar leftScalar rightScalar same =>
      rw [unchanged value leftScalar, unchanged other rightScalar]
      exact .scalar leftScalar rightScalar same
  | object same unbound bound => exact .object same unbound bound
  | array inside =>
      refine .array (List.forall₂_map_left_iff.mpr (List.forall₂_map_right_iff.mpr ?_))
      refine (Related.zipIdx inside 0).imp ?_
      rintro ⟨item, index⟩ ⟨otherItem, otherIndex⟩ ⟨sameIndex, alikeItem⟩
      obtain rfl : index = otherIndex := sameIndex
      exact alike_changeRecord (keeps index) alikeItem

/-- Changing the records of a list keeps values alike if changing each of them does. -/
theorem alike_changeList (list : String) {change : Nat → Json.Members → Json.Members}
    (keeps : ∀ index left right, Alike names (.object left) (.object right) →
      Alike names (.object (change index left)) (.object (change index right)))
    {left right : Json.Members} (alike : Alike names (.object left) (.object right)) :
    Alike names (.object (changeList list (changeRecords change) left))
      (.object (changeList list (changeRecords change) right)) := by
  cases alike with
  | scalar noObject _ _ => cases noObject
  | object same unbound bound =>
      refine .object ?_ ?_ ?_
      · rw [isEmpty_changeList, isEmpty_changeList, same]
      · intro name isName
        by_cases isList : name = list
        · rw [isList, lookup_changeList_self, lookup_changeList_self, Option.map_eq_none_iff,
            Option.map_eq_none_iff]
          exact unbound list (isList ▸ isName)
        · rw [lookup_changeList_of_ne isList, lookup_changeList_of_ne isList]
          exact unbound name isName
      · intro name isName value other isValue isOther
        by_cases isList : name = list
        · rw [isList, lookup_changeList_self, Option.map_eq_some_iff] at isValue isOther
          obtain ⟨before, wasBefore, rfl⟩ := isValue
          obtain ⟨otherBefore, otherWasBefore, rfl⟩ := isOther
          exact alike_changeItems keeps
            (bound list (isList ▸ isName) before otherBefore wasBefore otherWasBefore)
        · rw [lookup_changeList_of_ne isList] at isValue isOther
          exact bound name isName value other isValue isOther

theorem alike_addPosition (index : Nat) {left right : Json.Members}
    (alike : Alike names (.object left) (.object right)) :
    Alike names (.object (addPosition index left)) (.object (addPosition index right)) := by
  have withIndex := alike_bind alike "index"
    fun _ => (alike_of_isScalar rfl : Alike names (.int index) (.int index))
  have withFirst := alike_bind withIndex "first"
    fun _ => (alike_of_isScalar rfl : Alike names (.bool (index == 0)) (.bool (index == 0)))
  exact alike_bind withFirst "side" fun _ => alike_of_isScalar rfl

/-- Derived values are alike if the declared ones are and no section depends on what is derived from
a text. -/
theorem alike_derive {derive : Json.Members → Json.Members} (derives : Derives derive)
    (apart : "label" ∉ names ∧ "image_alt" ∉ names) {left right : Json.Members}
    (alike : Alike names (.object left) (.object right)) :
    Alike names (.object (derive left)) (.object (derive right)) := by
  cases derives with
  | nothing => exact alike
  | positions _ =>
      rw [positionsIn_eq]
      exact alike_changeList _ (fun index _ _ => alike_addPosition index) alike
  | labels =>
      rw [mapRecordsIn_eq]
      exact alike_changeList "links"
        (fun _ _ _ alikeRecord => alike_bind alikeRecord "label" fun isName => absurd isName apart.1)
        alike
  | descriptions =>
      rw [mapRecordsIn_eq]
      exact alike_changeList "posts"
        (fun _ _ _ alikeRecord =>
          alike_bind alikeRecord "image_alt" fun isName => absurd isName apart.2)
        alike

end Derived

/-! ## The types -/

/-- The names of texts that are not declared as fields of their own. -/
def undeclaredNames : List String :=
  ["platform", "url", "label", "image_alt", "component_id"]

/-- No section of a template depends on a text that is not declared. -/
theorem sections_apart_of_mem_catalogue :
    ∀ definition ∈ catalogue, ∀ name ∈ undeclaredNames, name ∉ definition.markup.sections := by
  decide +kernel

theorem required_apart_of_mem_catalogue :
    ∀ definition ∈ catalogue, "platform" ∉ definition.required ∧ "url" ∉ definition.required := by
  decide +kernel

section Runs

variable {definition : Definition} {node other : Node} {values others : Json.Members}

/-- The scopes of two components are alike to their template if their values agree. -/
theorem alike_scope (member : definition ∈ catalogue)
    (coerced : coerceFields node.props definition.fields = .ok values)
    (otherCoerced : coerceFields other.props definition.fields = .ok others)
    (agree : FieldsAgree definition.fields values others) :
    Alike definition.markup.sections (definition.scope node values)
      (definition.scope other others) := by
  have apart := sections_apart_of_mem_catalogue definition member
  have declared := alikeMembers_coerceFields
    ⟨apart "platform" (by decide), apart "url" (by decide)⟩ definition.fields
    (allAreRegular_of_mem_catalogue definition member) coerced otherCoerced agree
  have derived := alike_derive (derives_of_mem_catalogue definition member)
    ⟨apart "label" (by decide), apart "image_alt" (by decide)⟩ (alike_object declared)
  exact alike_append derived (apart "component_id" (by decide)) _ _

/-- Two components whose values agree lack the same required fields. -/
theorem missing_eq (member : definition ∈ catalogue)
    (coerced : coerceFields node.props definition.fields = .ok values)
    (otherCoerced : coerceFields other.props definition.fields = .ok others)
    (agree : FieldsAgree definition.fields values others) :
    definition.missing values = definition.missing others := by
  have alike := alikeMembers_coerceFields (required_apart_of_mem_catalogue definition member)
    definition.fields (allAreRegular_of_mem_catalogue definition member) coerced otherCoerced agree
  refine List.filter_congr fun name isRequired => ?_
  rcases alike.lookup isRequired with ⟨nothing, nothingElse⟩ | ⟨value, other, found, foundOther, same⟩
  · rw [nothing, nothingElse]
  · rw [found, foundOther, Option.getD_some, Option.getD_some, same.isTruthy_eq]

end Runs

/-! ## Components -/

/-- The marks of the start tag of every container. -/
def containerMarks : List Char :=
  tagMarks "div"
    [ .valued "id" [.literal "component-"],
      .valued "class" [.literal "component "],
      .valued "data-component-id" [] ]

/-- The id and the type of a component leave no marks in the tags of its container. -/
theorem marks_container (node : Node) (inner : Html) :
    (container node inner).marks =
      containerMarks ++ (trimmed inner).marks ++ marksIn (endTag "div") := by
  rw [container, Html.sheet, Html.marks, Html.marksOf_singleton]
  rfl

/-- Whether two components give markup with the same marks. -/
def SameMarks (node other : Node) : Prop :=
  ∃ fragment otherFragment, Emitter.builtIn.emit node = .ok fragment ∧
    Emitter.builtIn.emit other = .ok otherFragment ∧
    marksIn fragment.body.render = marksIn otherFragment.body.render

theorem sameMarks_of_emit {node other : Node} {fragment otherFragment : Fragment}
    {inner otherInner : Html} (emitted : Emitter.builtIn.emit node = .ok fragment)
    (otherEmitted : Emitter.builtIn.emit other = .ok otherFragment)
    (isBody : fragment.body = container node inner)
    (isOtherBody : otherFragment.body = container other otherInner)
    (same : (trimmed inner).marks = (trimmed otherInner).marks) : SameMarks node other := by
  refine ⟨fragment, otherFragment, emitted, otherEmitted, ?_⟩
  rw [isBody, isOtherBody, Html.render, Html.render, Html.marksIn_renderAt, Html.marksIn_renderAt,
    marks_container, marks_container, same]

/-- Components of one type whose values agree give markup with the same marks. -/
theorem sameMarks_of_agree {definition : Definition} (member : definition ∈ catalogue)
    {node other : Node} (isType : node.type = definition.type)
    (isOtherType : other.type = definition.type) {values others : Json.Members}
    (coerced : coerceFields node.props definition.fields = .ok values)
    (otherCoerced : coerceFields other.props definition.fields = .ok others)
    (agree : FieldsAgree definition.fields values others) : SameMarks node other := by
  have emitted := emit_of_coerced member isType coerced
  have otherEmitted := emit_of_coerced member isOtherType otherCoerced
  rw [← missing_eq member coerced otherCoerced agree] at otherEmitted
  refine sameMarks_of_emit emitted otherEmitted rfl rfl ?_
  split
  · have filled := marksOf_fill definition.markup [definition.scope node values]
      [definition.scope other others] (.cons (alike_scope member coerced otherCoerced agree) .nil)
      (List.Subset.refl _)
    exact filled
  · rfl

/-- Components of types that are not known give markup with the same marks. -/
theorem sameMarks_of_unknown {node other : Node}
    (unknown : ∀ definition ∈ catalogue, definition.type ≠ node.type)
    (otherUnknown : ∀ definition ∈ catalogue, definition.type ≠ other.type) :
    SameMarks node other :=
  sameMarks_of_emit (emit_of_unknown unknown) (emit_of_unknown otherUnknown) rfl rfl rfl

/-- The angle brackets and double quotes in the markup of a component come from its template alone. For
a known type they are the same for any two components whose coerced values agree, at every depth, in
which texts, links and choices are empty, which numbers are zero, which flags are set, and how long
lists are, whatever their ids and texts are. For types that are not known they are the same for any
two components, whatever their types are. -/
theorem markup_marks_fixed :
    (∀ definition ∈ catalogue, ∀ node other : Node, ∀ values others : Json.Members,
      node.type = definition.type → other.type = definition.type →
        coerceFields node.props definition.fields = .ok values →
          coerceFields other.props definition.fields = .ok others →
            FieldsAgree definition.fields values others → SameMarks node other) ∧
      ∀ node other : Node, (∀ definition ∈ catalogue, definition.type ≠ node.type) →
        (∀ definition ∈ catalogue, definition.type ≠ other.type) → SameMarks node other :=
  ⟨fun _ member _ _ _ _ isType isOtherType coerced otherCoerced agree =>
      sameMarks_of_agree member isType isOtherType coerced otherCoerced agree,
    fun _ _ unknown otherUnknown => sameMarks_of_unknown unknown otherUnknown⟩

def plainQuestions : Node :=
  ⟨"a", "faq", [("faqs", .array [.object [("question", .text "Why?"), ("answer", .text "So.")]])]⟩

/-- Questions with texts that look like markup. -/
def markedQuestions : Node :=
  ⟨"\"><i>", "faq",
    [("title", .text "</h2>"),
      ("faqs", .array [.object [("question", .text "\"><script>"), ("answer", .text "</p><p>")]])]⟩

/-- Texts and types that look like markup leave the marks as they are. -/
theorem markup_marks_fixed_of_markedQuestions :
    SameMarks plainQuestions markedQuestions ∧
      SameMarks ⟨"a", "banner", []⟩ ⟨"a", "\"><script>", []⟩ := by
  constructor
  · refine markup_marks_fixed.1 Faq.definition (by simp [catalogue]) plainQuestions markedQuestions _ _
      rfl rfl rfl rfl ?_
    refine ⟨_, _, _, _, rfl, rfl, rfl, _, _, _, _, rfl, rfl, ?_, rfl, rfl⟩
    exact ⟨_, _, rfl, rfl, .cons ⟨_, _, _, _, rfl, rfl, rfl, _, _, _, _, rfl, rfl, rfl, rfl, rfl⟩ .nil⟩
  · exact markup_marks_fixed.2 _ _ (by decide) (by decide)

end StaticSite.Emission
