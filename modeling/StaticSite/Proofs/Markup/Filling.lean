import StaticSite.Markup.Template
import StaticSite.Proofs.Markup.Guard

/-!
Contract: what filling a template with values can write.

Owns:
- trees with end tags from a given list only;
- templates whose literals keep to such a list;
- the law that a template keeps to its list whatever values it is filled with.

Does not own: the templates of the components (see `StaticSite.Proofs.Page.Regions`).
-/

namespace StaticSite.Markup

/-! ## Trees with known end tags -/

/-- Guarded trees that write only end tags from a list. -/
structure Within (tags : List String) (trees : List Html) : Prop where
  guarded : Html.AllGuarded trees
  known : ∀ tag ∈ Html.endTagsOf trees, tag ∈ tags

variable {tags : List String}

theorem within_nil : Within tags [] :=
  ⟨trivial, fun _ member => absurd member List.not_mem_nil⟩

theorem Within.append {trees others : List Html} (first : Within tags trees)
    (second : Within tags others) : Within tags (trees ++ others) := by
  refine ⟨(Html.allGuarded_append trees others).mpr ⟨first.guarded, second.guarded⟩, ?_⟩
  intro tag member
  rw [Html.endTagsOf_append, List.mem_append] at member
  rcases member with inFirst | inSecond
  · exact first.known tag inFirst
  · exact second.known tag inSecond

theorem within_flatMap {Value : Type} (values : List Value) {treesOf : Value → List Html}
    (within : ∀ value, Within tags (treesOf value)) : Within tags (values.flatMap treesOf) := by
  induction values with
  | nil => exact within_nil
  | cons value others inductionHypothesis =>
      rw [List.flatMap_cons]
      exact (within value).append inductionHypothesis

theorem within_singleton {tree : Html} (guarded : tree.Guarded)
    (known : ∀ tag ∈ tree.endTags, tag ∈ tags) : Within tags [tree] := by
  refine ⟨⟨guarded, trivial⟩, ?_⟩
  intro tag member
  rw [Html.endTagsOf, Html.endTagsOf, List.append_nil] at member
  exact known tag member

theorem Within.row {trees : List Html} (within : Within tags trees) :
    Within tags [.row trees] :=
  within_singleton within.guarded within.known

/-- The end tags of trees that keep to a list, with one more end tag from the list. -/
theorem Within.known_append {tag : String} {trees : List Html} (within : Within tags trees)
    (known : tag ∈ tags) : ∀ other ∈ Html.endTagsOf trees ++ [tag], other ∈ tags := by
  intro other member
  rw [List.mem_append, List.mem_singleton] at member
  rcases member with inside | rfl
  · exact within.known other inside
  · exact known

/-- An element with an end tag from the list, around trees that keep to it. -/
theorem Within.element {tag : String} {attributes : List Attribute} {children : List Html}
    (isName : isTagName tag = true) (plain : attributes.all Attribute.isPlain = true)
    (known : tag ∈ tags) (within : Within tags children) :
    Within tags [.element tag attributes children] := by
  refine within_singleton ⟨isName, plain, within.guarded⟩ ?_
  rw [Html.endTags]
  exact within.known_append known

theorem Within.block {step : Nat} {tag : String} {attributes : List Attribute}
    {children : List Html} (isName : isTagName tag = true)
    (plain : attributes.all Attribute.isPlain = true) (known : tag ∈ tags)
    (within : Within tags children) : Within tags [.block step tag attributes children] := by
  refine within_singleton ⟨isName, plain, within.guarded⟩ ?_
  rw [Html.endTags]
  exact within.known_append known

/-! ## Templates of attribute values and attributes -/

mutual

/-- Whether the literals of a part hold no left angle bracket. -/
def Part.isPlain : Part → Bool
  | .literal text => isPlainText text
  | .value _ => true
  | .current => true
  | .present _ parts => partsArePlain parts
  | .absent _ parts => partsArePlain parts

/-- Whether the literals of some parts hold no left angle bracket. -/
def partsArePlain : List Part → Bool
  | [] => true
  | part :: others => part.isPlain && partsArePlain others

end

mutual

theorem isPlain_fill :
    ∀ (part : Part) (scopes : Scopes), part.isPlain = true →
      (part.fill scopes).all Piece.isPlain = true
  | .literal text, scopes, plain => by
      simp only [Part.fill, List.all_cons, List.all_nil, Bool.and_true]
      exact plain
  | .value name, _, _ => rfl
  | .current, _, _ => rfl
  | .present name parts, scopes, plain => by
      rw [Part.fill, List.all_flatMap, List.all_eq_true]
      intro entered _
      exact isPlain_fillParts parts entered plain
  | .absent name parts, scopes, plain => by
      rw [Part.fill]
      split
      · rfl
      · exact isPlain_fillParts parts scopes plain

/-- Parts without left angle brackets give pieces without them, whatever the values. -/
theorem isPlain_fillParts :
    ∀ (parts : List Part) (scopes : Scopes), partsArePlain parts = true →
      (fillParts scopes parts).all Piece.isPlain = true
  | [], _, _ => rfl
  | part :: others, scopes, plain => by
      have both := Bool.and_eq_true_iff.mp plain
      rw [fillParts, List.all_append, isPlain_fill part scopes both.1,
        isPlain_fillParts others scopes both.2]
      rfl

end

mutual

/-- Whether the literals of an attribute template hold no left angle bracket. -/
def AttributeTemplate.isPlain : AttributeTemplate → Bool
  | .valued name parts => isPlainText name && partsArePlain parts
  | .bare name => isPlainText name
  | .present _ attributes => attributesArePlain attributes
  | .absent _ attributes => attributesArePlain attributes

/-- Whether the literals of some attribute templates hold no left angle bracket. -/
def attributesArePlain : List AttributeTemplate → Bool
  | [] => true
  | first :: others => first.isPlain && attributesArePlain others

end

mutual

theorem isPlain_fillAttribute :
    ∀ (template : AttributeTemplate) (scopes : Scopes), template.isPlain = true →
      (template.fill scopes).all Attribute.isPlain = true
  | .valued name parts, scopes, plain => by
      have both := Bool.and_eq_true_iff.mp plain
      simp only [AttributeTemplate.fill, List.all_cons, List.all_nil, Bool.and_true,
        Attribute.isPlain, both.1, isPlain_fillParts parts scopes both.2]
  | .bare name, scopes, plain => by
      simp only [AttributeTemplate.fill, List.all_cons, List.all_nil, Bool.and_true]
      exact plain
  | .present name attributes, scopes, plain => by
      rw [AttributeTemplate.fill, List.all_flatMap, List.all_eq_true]
      intro entered _
      exact isPlain_fillAttributes attributes entered plain
  | .absent name attributes, scopes, plain => by
      rw [AttributeTemplate.fill]
      split
      · rfl
      · exact isPlain_fillAttributes attributes scopes plain

/-- Attribute templates without left angle brackets give attributes without them,
whatever the values. -/
theorem isPlain_fillAttributes :
    ∀ (templates : List AttributeTemplate) (scopes : Scopes),
      attributesArePlain templates = true →
        (fillAttributes scopes templates).all Attribute.isPlain = true
  | [], _, _ => rfl
  | first :: others, scopes, plain => by
      have both := Bool.and_eq_true_iff.mp plain
      rw [fillAttributes, List.all_append, isPlain_fillAttribute first scopes both.1,
        isPlain_fillAttributes others scopes both.2]
      rfl

end

/-! ## Templates of nodes -/

mutual

/-- Whether the literals of a template hold no left angle bracket and its elements are
in a list. -/
def Template.keepsTo (tags : List String) : Template → Bool
  | .text part => part.isPlain
  | .element tag attributes children =>
      tags.contains tag && isTagName tag && attributesArePlain attributes &&
        allKeepTo tags children
  | .void tag attributes => isTagName tag && attributesArePlain attributes
  | .block tag attributes children =>
      tags.contains tag && isTagName tag && attributesArePlain attributes &&
        allKeepTo tags children
  | .row children => allKeepTo tags children
  | .inline _ children => allKeepTo tags children
  | .perItem _ children => allKeepTo tags children

/-- Whether some templates keep to a list of elements. -/
def allKeepTo (tags : List String) : List Template → Bool
  | [] => true
  | first :: others => first.keepsTo tags && allKeepTo tags others

end

/-- A line of its own for what a template gives. -/
theorem Within.line {scopes : Scopes} {first : Template} {others : List Template}
    (within : Within tags (first.fill scopes))
    (isLine : fillLines scopes (first :: others) =
      .row (first.fill scopes) :: fillLines scopes others)
    (rest : Within tags (fillLines scopes others)) :
    Within tags (fillLines scopes (first :: others)) := by
  rw [isLine]
  exact within.row.append rest

mutual

/-- A template that keeps to a list of elements does so whatever values it is filled
with. -/
theorem within_fill :
    ∀ (template : Template) (scopes : Scopes), template.keepsTo tags = true →
      Within tags (template.fill scopes)
  | .text part, scopes, keeps => by
      rw [Template.fill]
      refine within_singleton ?_ fun _ member => absurd member List.not_mem_nil
      exact isPlain_fill part scopes keeps
  | .element tag attributes children, scopes, keeps => by
      simp only [Template.keepsTo, Bool.and_eq_true] at keeps
      obtain ⟨⟨⟨known, isName⟩, plain⟩, inside⟩ := keeps
      rw [Template.fill]
      exact (within_fillInline children scopes inside).element isName
        (isPlain_fillAttributes attributes scopes plain) (List.contains_iff_mem.mp known)
  | .void tag attributes, scopes, keeps => by
      simp only [Template.keepsTo, Bool.and_eq_true] at keeps
      rw [Template.fill]
      exact within_singleton ⟨keeps.1, isPlain_fillAttributes attributes scopes keeps.2⟩
        fun _ member => absurd member List.not_mem_nil
  | .block tag attributes children, scopes, keeps => by
      simp only [Template.keepsTo, Bool.and_eq_true] at keeps
      obtain ⟨⟨⟨known, isName⟩, plain⟩, inside⟩ := keeps
      rw [Template.fill]
      exact (within_fillLines children scopes inside).block isName
        (isPlain_fillAttributes attributes scopes plain) (List.contains_iff_mem.mp known)
  | .row children, scopes, keeps => by
      rw [Template.fill]
      exact within_fillInline children scopes keeps
  | .inline name children, scopes, keeps => by
      rw [Template.fill]
      exact within_flatMap _ fun entered => within_fillInline children entered keeps
  | .perItem name children, scopes, keeps => by
      rw [Template.fill]
      exact within_flatMap _ fun entered => within_fillInline children entered keeps

theorem within_fillInline :
    ∀ (templates : List Template) (scopes : Scopes), allKeepTo tags templates = true →
      Within tags (fillInline scopes templates)
  | [], _, _ => within_nil
  | first :: others, scopes, keeps => by
      have both := Bool.and_eq_true_iff.mp keeps
      rw [fillInline]
      exact (within_fill first scopes both.1).append (within_fillInline others scopes both.2)

theorem within_fillLines :
    ∀ (templates : List Template) (scopes : Scopes), allKeepTo tags templates = true →
      Within tags (fillLines scopes templates)
  | [], _, _ => within_nil
  | first :: others, scopes, keeps => by
      have both := Bool.and_eq_true_iff.mp keeps
      have rest := within_fillLines others scopes both.2
      cases first with
      -- Only here the lines are those of the items and not a row for the whole template.
      | perItem name children =>
          rw [fillLines]
          exact (within_flatMap _ fun entered =>
            within_fillLines children entered both.1).append rest
      | text | element | void | block | row | inline =>
          exact (within_fill _ scopes both.1).line rfl rest

end

end StaticSite.Markup
