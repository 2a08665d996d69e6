import StaticSite.Markup.Template
import StaticSite.Proofs.Markup.StartTag

/-!
Contract: where the start tags and the attributes of a filled template come from.

Owns:
- the scopes that are reached from others by entering values;
- the start tags of a template, and the attributes with a value of an attribute template;
- the law that a filled template has no start tag, and a start tag no written, that does not come
  from one of these.

Does not own: which values the scopes hold (see `StaticSite.Proofs.Schema.Link`), and the templates of
the components (see `StaticSite.Proofs.Emission.Link`).
-/

namespace StaticSite.Markup

/-! ## Scopes -/

/-- Whether scopes are reached from others by entering values that are looked up by name. -/
inductive Reaches (outer : Scopes) : Scopes → Prop where
  | here : Reaches outer outer
  | entered {scopes inner : Scopes} (reaches : Reaches outer scopes) (name : String)
      (isEntered : inner ∈ scopes.enter (scopes.lookup name)) : Reaches outer inner

theorem Reaches.trans {outer middle inner : Scopes} (reaches : Reaches outer middle)
    (reachesOn : Reaches middle inner) : Reaches outer inner := by
  induction reachesOn with
  | here => exact reaches
  | entered _ name isEntered inductionHypothesis => exact .entered inductionHypothesis name isEntered

theorem reaches_of_mem_enter {scopes inner : Scopes} {name : String}
    (isEntered : inner ∈ scopes.enter (scopes.lookup name)) : Reaches scopes inner :=
  .entered .here name isEntered

/-! ## Attributes -/

mutual

/-- The attributes with a value that a template can give: their names and the parts of their
values. -/
def AttributeTemplate.assignments : AttributeTemplate → List (String × List Part)
  | .valued name parts => [(name, parts)]
  | .bare _ => []
  | .present _ attributes => assignmentsOf attributes
  | .absent _ attributes => assignmentsOf attributes

/-- The attributes with a value that some attribute templates can give. -/
def assignmentsOf : List AttributeTemplate → List (String × List Part)
  | [] => []
  | first :: others => first.assignments ++ assignmentsOf others

end

/-- Whether an attribute has no value or is one of some attributes with a value, filled in scopes
that are reached. -/
inductive Attribute.ComesFrom (outer : Scopes) (assignments : List (String × List Part)) :
    Attribute → Prop where
  | bare (name : String) : ComesFrom outer assignments (.bare name)
  | valued {name : String} {parts : List Part} {inner : Scopes}
      (isAssigned : (name, parts) ∈ assignments) (reaches : Reaches outer inner) :
      ComesFrom outer assignments (.valued name (fillParts inner parts))

theorem Attribute.ComesFrom.mono {outer inner : Scopes} {assignments more : List (String × List Part)}
    {written : Attribute} (comes : written.ComesFrom inner assignments)
    (reaches : Reaches outer inner) (included : assignments ⊆ more) :
    written.ComesFrom outer more := by
  cases comes with
  | bare name => exact .bare name
  | valued isAssigned reachesOn => exact .valued (included isAssigned) (reaches.trans reachesOn)

mutual

theorem comesFrom_of_mem_fillAttribute :
    ∀ (template : AttributeTemplate) (scopes : Scopes), ∀ written ∈ template.fill scopes,
      written.ComesFrom scopes template.assignments
  | .valued name parts, scopes, written, member => by
      rw [AttributeTemplate.fill, List.mem_singleton] at member
      rw [member]
      exact .valued List.mem_cons_self .here
  | .bare name, _, written, member => by
      rw [AttributeTemplate.fill, List.mem_singleton] at member
      rw [member]
      exact .bare name
  | .present name attributes, scopes, written, member => by
      rw [AttributeTemplate.fill] at member
      obtain ⟨inner, isEntered, inside⟩ := List.mem_flatMap.mp member
      have comes := comesFrom_of_mem_fillAttributes attributes inner written inside
      exact comes.mono (reaches_of_mem_enter isEntered) (List.Subset.refl _)
  | .absent name attributes, scopes, written, member => by
      rw [AttributeTemplate.fill] at member
      split at member
      · cases member
      · exact comesFrom_of_mem_fillAttributes attributes scopes written member

/-- The attributes of a filled template are those that it can give. -/
theorem comesFrom_of_mem_fillAttributes :
    ∀ (templates : List AttributeTemplate) (scopes : Scopes),
      ∀ written ∈ fillAttributes scopes templates,
        written.ComesFrom scopes (assignmentsOf templates)
  | [], _, _, member => by cases member
  | first :: others, scopes, written, member => by
      rw [fillAttributes, List.mem_append] at member
      rw [assignmentsOf]
      rcases member with inFirst | inOthers
      · exact (comesFrom_of_mem_fillAttribute first scopes written inFirst).mono .here
          (List.subset_append_left _ _)
      · exact (comesFrom_of_mem_fillAttributes others scopes written inOthers).mono .here
          (List.subset_append_right _ _)

end

/-! ## Start tags -/

/-- A start tag with places for values. -/
structure TagTemplate where
  tag : String
  attributes : List AttributeTemplate

mutual

/-- The start tags that a template can give. -/
def Template.tags : Template → List TagTemplate
  | .text _ => []
  | .element tag attributes children => ⟨tag, attributes⟩ :: tagsOf children
  | .void tag attributes => [⟨tag, attributes⟩]
  | .block tag attributes children => ⟨tag, attributes⟩ :: tagsOf children
  | .row children => tagsOf children
  | .inline _ children => tagsOf children
  | .perItem _ children => tagsOf children

/-- The start tags that some templates can give. -/
def tagsOf : List Template → List TagTemplate
  | [] => []
  | first :: others => first.tags ++ tagsOf others

end

/-- Whether a start tag is one of some start tags with places for values, filled in scopes that
are reached. -/
inductive Opening.ComesFrom (outer : Scopes) (tags : List TagTemplate) : Opening → Prop where
  | filled {template : TagTemplate} {inner : Scopes} (isTag : template ∈ tags)
      (reaches : Reaches outer inner) :
      ComesFrom outer tags ⟨template.tag, fillAttributes inner template.attributes⟩

theorem Opening.ComesFrom.mono {outer inner : Scopes} {tags more : List TagTemplate}
    {opening : Opening} (comes : opening.ComesFrom inner tags) (reaches : Reaches outer inner)
    (included : tags ⊆ more) : opening.ComesFrom outer more := by
  cases comes with
  | filled isTag reachesOn => exact .filled (included isTag) (reaches.trans reachesOn)

/-- Trees all of whose start tags come from those of some templates. -/
def AllComeFrom (scopes : Scopes) (tags : List TagTemplate) (trees : List Html) : Prop :=
  ∀ opening ∈ Html.openingsOf trees, opening.ComesFrom scopes tags

section AllComeFrom

variable {scopes : Scopes} {tags : List TagTemplate}

theorem allComeFrom_nil : AllComeFrom scopes tags [] :=
  nofun

theorem AllComeFrom.append {trees others : List Html} {more : List TagTemplate}
    (first : AllComeFrom scopes tags trees) (second : AllComeFrom scopes more others) :
    AllComeFrom scopes (tags ++ more) (trees ++ others) := by
  intro opening member
  rw [Html.openingsOf_append, List.mem_append] at member
  rcases member with inFirst | inSecond
  · exact (first opening inFirst).mono .here (List.subset_append_left _ _)
  · exact (second opening inSecond).mono .here (List.subset_append_right _ _)

theorem allComeFrom_row {trees : List Html} (inside : AllComeFrom scopes tags trees) :
    AllComeFrom scopes tags [.row trees] := by
  intro opening member
  rw [Html.openingsOf, Html.openingsOf, List.append_nil] at member
  exact inside opening member

/-- An element whose start tag is filled here, around trees from the templates inside. -/
theorem allComeFrom_element (template : TagTemplate) {tree : Html} (children : List Html)
    (isElement : tree.openings =
      ⟨template.tag, fillAttributes scopes template.attributes⟩ :: Html.openingsOf children)
    (inside : AllComeFrom scopes tags children) : AllComeFrom scopes (template :: tags) [tree] := by
  intro opening member
  rw [Html.openingsOf, Html.openingsOf, List.append_nil, isElement] at member
  rcases List.mem_cons.mp member with rfl | later
  · exact .filled List.mem_cons_self .here
  · exact (inside opening later).mono .here (List.subset_cons_self _ _)

theorem allComeFrom_flatMap_enter {name : String} {treesOf : Scopes → List Html}
    (inside : ∀ inner, AllComeFrom inner tags (treesOf inner)) :
    AllComeFrom scopes tags ((scopes.enter (scopes.lookup name)).flatMap treesOf) := by
  have anyOf : ∀ entered : List Scopes, entered ⊆ scopes.enter (scopes.lookup name) →
      AllComeFrom scopes tags (entered.flatMap treesOf) := by
    intro entered included
    induction entered with
    | nil => exact allComeFrom_nil
    | cons inner others inductionHypothesis =>
        intro opening member
        rw [List.flatMap_cons, Html.openingsOf_append, List.mem_append] at member
        rcases member with inFirst | inOthers
        · have reaches := reaches_of_mem_enter (included List.mem_cons_self)
          exact (inside inner opening inFirst).mono reaches (List.Subset.refl _)
        · exact inductionHypothesis (List.subset_of_cons_subset included) opening inOthers
  exact anyOf _ (List.Subset.refl _)

end AllComeFrom

/-- A line of its own for what a template gives. -/
theorem AllComeFrom.line {scopes : Scopes} {first : Template} {others : List Template}
    (filled : AllComeFrom scopes first.tags (first.fill scopes))
    (isLine : fillLines scopes (first :: others) =
      .row (first.fill scopes) :: fillLines scopes others)
    (rest : AllComeFrom scopes (tagsOf others) (fillLines scopes others)) :
    AllComeFrom scopes (tagsOf (first :: others)) (fillLines scopes (first :: others)) := by
  rw [isLine, tagsOf]
  exact (allComeFrom_row filled).append rest

mutual

theorem allComeFrom_fill :
    ∀ (template : Template) (scopes : Scopes),
      AllComeFrom scopes template.tags (template.fill scopes)
  | .text part, scopes => by
      rw [Template.fill]
      exact fun _ member => by cases member
  | .element tag attributes children, scopes => by
      rw [Template.fill]
      exact allComeFrom_element ⟨tag, attributes⟩ _ rfl
        (allComeFrom_fillInline children scopes)
  | .void tag attributes, scopes => by
      rw [Template.fill]
      exact allComeFrom_element ⟨tag, attributes⟩ [] rfl allComeFrom_nil
  | .block tag attributes children, scopes => by
      rw [Template.fill]
      exact allComeFrom_element ⟨tag, attributes⟩ _ rfl
        (allComeFrom_fillLines children scopes)
  | .row children, scopes => by
      rw [Template.fill]
      exact allComeFrom_fillInline children scopes
  | .inline name children, scopes => by
      rw [Template.fill]
      exact allComeFrom_flatMap_enter fun inner => allComeFrom_fillInline children inner
  | .perItem name children, scopes => by
      rw [Template.fill]
      exact allComeFrom_flatMap_enter fun inner => allComeFrom_fillInline children inner

theorem allComeFrom_fillInline :
    ∀ (templates : List Template) (scopes : Scopes),
      AllComeFrom scopes (tagsOf templates) (fillInline scopes templates)
  | [], _ => allComeFrom_nil
  | first :: others, scopes => by
      rw [fillInline, tagsOf]
      exact (allComeFrom_fill first scopes).append (allComeFrom_fillInline others scopes)

theorem allComeFrom_fillLines :
    ∀ (templates : List Template) (scopes : Scopes),
      AllComeFrom scopes (tagsOf templates) (fillLines scopes templates)
  | [], _ => allComeFrom_nil
  | first :: others, scopes => by
      have rest := allComeFrom_fillLines others scopes
      cases first with
      -- Only here the lines are those of the items and not a row for the whole template.
      | perItem name children =>
          have items : AllComeFrom scopes (tagsOf children)
              ((scopes.enter (scopes.lookup name)).flatMap fun inner => fillLines inner children) :=
            allComeFrom_flatMap_enter fun inner => allComeFrom_fillLines children inner
          rw [fillLines, tagsOf]
          exact items.append rest
      | text | element | void | block | row | inline =>
          exact (allComeFrom_fill _ scopes).line rfl rest

end

end StaticSite.Markup
