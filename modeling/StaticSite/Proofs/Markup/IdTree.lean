import StaticSite.Proofs.Markup.Filling
import StaticSite.Proofs.Markup.IdAttribute

/-!
Contract: the ids that filled templates give to their elements.

Owns:
- trees that can be read back and give known ids;
- templates whose ids depend on no section, and the ids of such a template once it is filled.

Does not own: the templates of the components (see `StaticSite.Proofs.Emission.ElementId`).
-/

namespace StaticSite.Markup

/-! ## Trees with known ids -/

/-- Trees that can be read back and give the given ids to their elements. -/
structure Identifies (trees : List Html) (ids : List (List Char)) : Prop where
  readable : Html.AllReadable trees
  given : Html.idsOf trees = ids

theorem identifies_nil : Identifies [] [] :=
  ⟨trivial, rfl⟩

theorem Identifies.append {trees others : List Html} {ids more : List (List Char)}
    (first : Identifies trees ids) (second : Identifies others more) :
    Identifies (trees ++ others) (ids ++ more) := by
  constructor
  · exact (Html.allReadable_append trees others).mpr ⟨first.readable, second.readable⟩
  · rw [Html.idsOf_append, first.given, second.given]

theorem Identifies.append_nothing {trees others : List Html} {ids : List (List Char)}
    (first : Identifies trees ids) (nothing : Identifies others []) :
    Identifies (trees ++ others) ids := by
  have both := first.append nothing
  rw [List.append_nil] at both
  exact both

theorem identifies_singleton (tree : Html) (readable : tree.Readable) :
    Identifies [tree] tree.ids :=
  ⟨⟨readable, trivial⟩, List.append_nil tree.ids⟩

theorem identifies_flatMap_nothing {Value : Type} (values : List Value)
    {treesOf : Value → List Html} (nothing : ∀ value, Identifies (treesOf value) []) :
    Identifies (values.flatMap treesOf) [] := by
  induction values with
  | nil => exact identifies_nil
  | cons value others inductionHypothesis =>
      exact (nothing value).append inductionHypothesis

/-- An element without code, around trees with known ids. -/
theorem Identifies.element {tag : String} {attributes : List Attribute} {children : List Html}
    {ids : List (List Char)} (inside : Identifies children ids)
    (opens : Html.Opens tag attributes) (notCode : isCodeTag tag.toList = false) :
    Identifies [.element tag attributes children] (attributeIds attributes ++ ids) := by
  have alone := identifies_singleton (.element tag attributes children)
    ⟨opens, Or.inr ⟨notCode, inside.readable⟩⟩
  rw [Html.ids, inside.given] at alone
  exact alone

theorem Identifies.block {step : Nat} {tag : String} {attributes : List Attribute}
    {children : List Html} {ids : List (List Char)} (inside : Identifies children ids)
    (opens : Html.Opens tag attributes) (notCode : isCodeTag tag.toList = false) :
    Identifies [.block step tag attributes children] (attributeIds attributes ++ ids) := by
  have alone := identifies_singleton (.block step tag attributes children)
    ⟨opens, Or.inr ⟨notCode, inside.readable⟩⟩
  rw [Html.ids, inside.given] at alone
  exact alone

theorem Identifies.row {trees : List Html} {ids : List (List Char)}
    (inside : Identifies trees ids) : Identifies [.row trees] ids := by
  have alone := identifies_singleton (.row trees) inside.readable
  rw [Html.ids, inside.given] at alone
  exact alone

/-! ## Templates of attributes -/

mutual

def Part.literals : Part → List String
  | .literal text => [text]
  | .value _ => []
  | .current => []
  | .present _ parts => literalsOf parts
  | .absent _ parts => literalsOf parts

def literalsOf : List Part → List String
  | [] => []
  | part :: others => part.literals ++ literalsOf others

end

mutual

theorem mem_literals_of_mem_fill {text : String} :
    ∀ (part : Part) (scopes : Scopes), Piece.literal text ∈ part.fill scopes →
      text ∈ part.literals
  | .literal other, _, member => by
      simpa [Part.fill, Part.literals] using member
  | .value name, _, member => by simp [Part.fill] at member
  | .current, _, member => by simp [Part.fill] at member
  | .present name parts, scopes, member => by
      rw [Part.fill] at member
      obtain ⟨entered, _, inside⟩ := List.mem_flatMap.mp member
      exact mem_literalsOf_of_mem_fillParts parts entered inside
  | .absent name parts, scopes, member => by
      rw [Part.fill] at member
      split at member
      · exact absurd member List.not_mem_nil
      · exact mem_literalsOf_of_mem_fillParts parts scopes member

theorem mem_literalsOf_of_mem_fillParts {text : String} :
    ∀ (parts : List Part) (scopes : Scopes), Piece.literal text ∈ fillParts scopes parts →
      text ∈ literalsOf parts
  | [], _, member => by simp [fillParts] at member
  | part :: others, scopes, member => by
      rw [fillParts, List.mem_append] at member
      rw [literalsOf, List.mem_append]
      rcases member with inFirst | inOthers
      · exact Or.inl (mem_literals_of_mem_fill part scopes inFirst)
      · exact Or.inr (mem_literalsOf_of_mem_fillParts others scopes inOthers)

end

theorem isUnquoted_fillParts {parts : List Part}
    (unquoted : (literalsOf parts).all isUnquotedText = true) (scopes : Scopes) :
    (fillParts scopes parts).all Piece.isUnquoted = true := by
  rw [List.all_eq_true]
  intro piece member
  cases piece with
  | literal text =>
      exact List.all_eq_true.mp unquoted text
        (mem_literalsOf_of_mem_fillParts parts scopes member)
  | content value => rfl
  | anywhere value => rfl

/-- The text that some parts give as the value of an attribute. -/
def partsText (scopes : Scopes) (parts : List Part) : List Char :=
  (renderPieces (fillParts scopes parts)).toList

/-- The values of the id attributes that stand outside of sections. -/
def AttributeTemplate.idParts : AttributeTemplate → List (List Part)
  | .valued name parts => if isIdName name.toList then [parts] else []
  | _ => []

/-- The values of the id attributes among some attribute templates. -/
def attributesIdParts (templates : List AttributeTemplate) : List (List Part) :=
  templates.flatMap AttributeTemplate.idParts

mutual

/-- Whether an attribute template can be read back, with no id in a section. -/
def AttributeTemplate.isReadable : AttributeTemplate → Bool
  | .valued name parts => isAttributeName name && (literalsOf parts).all isUnquotedText
  | .bare name => isAttributeName name
  -- How often a section stands in the text depends on the values.
  | .present _ attributes =>
      attributesAreReadable attributes && (attributesIdParts attributes).isEmpty
  | .absent _ attributes =>
      attributesAreReadable attributes && (attributesIdParts attributes).isEmpty

/-- Whether some attribute templates can be read back, with no id in a section. -/
def attributesAreReadable : List AttributeTemplate → Bool
  | [] => true
  | first :: others => first.isReadable && attributesAreReadable others

end

/-- Attributes that can be read back and give the given ids. -/
structure Assigns (attributes : List Attribute) (ids : List (List Char)) : Prop where
  readable : attributes.all Attribute.isReadable = true
  given : attributeIds attributes = ids

theorem Assigns.append {attributes others : List Attribute} {ids more : List (List Char)}
    (first : Assigns attributes ids) (second : Assigns others more) :
    Assigns (attributes ++ others) (ids ++ more) := by
  constructor
  · rw [List.all_append, first.readable, second.readable]
    rfl
  · rw [attributeIds, List.flatMap_append]
    exact congrArg₂ (· ++ ·) first.given second.given

theorem assigns_flatMap_nothing {Value : Type} (values : List Value)
    {attributesOf : Value → List Attribute}
    (nothing : ∀ value, Assigns (attributesOf value) []) :
    Assigns (values.flatMap attributesOf) [] := by
  induction values with
  | nil => exact ⟨rfl, rfl⟩
  | cons value others inductionHypothesis =>
      exact (nothing value).append inductionHypothesis

mutual

theorem assigns_fillAttribute :
    ∀ (template : AttributeTemplate) (scopes : Scopes), template.isReadable = true →
      Assigns (template.fill scopes) (template.idParts.map (partsText scopes))
  | .valued name parts, scopes, readable => by
      obtain ⟨isName, unquoted⟩ := Bool.and_eq_true_iff.mp readable
      constructor
      · simp only [AttributeTemplate.fill, List.all_cons, List.all_nil, Bool.and_true,
          Attribute.isReadable, isName, isUnquoted_fillParts unquoted scopes]
      · simp only [AttributeTemplate.fill, attributeIds, List.flatMap_cons, List.flatMap_nil,
          List.append_nil, Attribute.ids, AttributeTemplate.idParts]
        split
        · rfl
        · rfl
  | .bare name, scopes, readable => by
      constructor
      · simp only [AttributeTemplate.fill, List.all_cons, List.all_nil, Bool.and_true]
        exact readable
      · rfl
  | .present name attributes, scopes, readable => by
      obtain ⟨inside, noIds⟩ := Bool.and_eq_true_iff.mp readable
      rw [AttributeTemplate.fill]
      apply assigns_flatMap_nothing
      intro entered
      have filled := assigns_fillAttributes attributes entered inside
      rw [List.isEmpty_iff.mp noIds] at filled
      exact filled
  | .absent name attributes, scopes, readable => by
      obtain ⟨inside, noIds⟩ := Bool.and_eq_true_iff.mp readable
      rw [AttributeTemplate.fill]
      split
      · exact ⟨rfl, rfl⟩
      · have filled := assigns_fillAttributes attributes scopes inside
        rw [List.isEmpty_iff.mp noIds] at filled
        exact filled

/-- Attribute templates give the ids that stand outside of sections, whatever the values. -/
theorem assigns_fillAttributes :
    ∀ (templates : List AttributeTemplate) (scopes : Scopes),
      attributesAreReadable templates = true →
        Assigns (fillAttributes scopes templates)
          ((attributesIdParts templates).map (partsText scopes))
  | [], _, _ => ⟨rfl, rfl⟩
  | first :: others, scopes, readable => by
      obtain ⟨readableFirst, readableLater⟩ := Bool.and_eq_true_iff.mp readable
      have both := (assigns_fillAttribute first scopes readableFirst).append
        (assigns_fillAttributes others scopes readableLater)
      rw [← List.map_append] at both
      exact both

end

/-! ## Templates of nodes -/

mutual

/-- The values of the id attributes of a template that stand outside of sections. -/
def Template.idParts : Template → List (List Part)
  | .element _ attributes children => attributesIdParts attributes ++ templatesIdParts children
  | .void _ attributes => attributesIdParts attributes
  | .block _ attributes children => attributesIdParts attributes ++ templatesIdParts children
  | .row children => templatesIdParts children
  | _ => []

/-- The values of the id attributes of some templates that stand outside of sections. -/
def templatesIdParts : List Template → List (List Part)
  | [] => []
  | first :: others => first.idParts ++ templatesIdParts others

end

/-- Whether a start tag with places for values can be read back, before content that is no
code. -/
def opensReadably (tag : String) (attributes : List AttributeTemplate) : Bool :=
  beginsTag tag && !isCodeTag tag.toList && attributesAreReadable attributes

mutual

/-- Whether a template can be read back, with no id in a section. -/
def Template.isReadable : Template → Bool
  | .text part => part.isPlain
  | .element tag attributes children => opensReadably tag attributes && allAreReadable children
  | .void tag attributes => opensReadably tag attributes
  | .block tag attributes children => opensReadably tag attributes && allAreReadable children
  | .row children => allAreReadable children
  | .inline _ children => allAreReadable children && (templatesIdParts children).isEmpty
  | .perItem _ children => allAreReadable children && (templatesIdParts children).isEmpty

/-- Whether some templates can be read back, with no id in a section. -/
def allAreReadable : List Template → Bool
  | [] => true
  | first :: others => first.isReadable && allAreReadable others

end

theorem opens_of_opensReadably {tag : String} {attributes : List AttributeTemplate}
    (readable : opensReadably tag attributes = true) (scopes : Scopes) :
    Html.Opens tag (fillAttributes scopes attributes) ∧ isCodeTag tag.toList = false ∧
      attributeIds (fillAttributes scopes attributes) =
        (attributesIdParts attributes).map (partsText scopes) := by
  simp only [opensReadably, Bool.and_eq_true, Bool.not_eq_true'] at readable
  obtain ⟨⟨begins, notCode⟩, areReadable⟩ := readable
  have assigns := assigns_fillAttributes attributes scopes areReadable
  exact ⟨⟨begins, assigns.readable⟩, notCode, assigns.given⟩

/-- A line of its own for what a template gives. -/
theorem Identifies.line {scopes : Scopes} {first : Template} {others : List Template}
    (identifies : Identifies (first.fill scopes) (first.idParts.map (partsText scopes)))
    (isLine : fillLines scopes (first :: others) =
      .row (first.fill scopes) :: fillLines scopes others)
    (rest : Identifies (fillLines scopes others)
      ((templatesIdParts others).map (partsText scopes))) :
    Identifies (fillLines scopes (first :: others))
      ((templatesIdParts (first :: others)).map (partsText scopes)) := by
  rw [isLine, templatesIdParts, List.map_append]
  exact identifies.row.append rest

/-- Markup that is filled again and again gives no ids if the markup itself has none. -/
theorem identifies_flatMap_of_isEmpty {children : List Template} {treesOf : Scopes → List Html}
    (noIds : (templatesIdParts children).isEmpty = true)
    (filled : ∀ entered, Identifies (treesOf entered)
      ((templatesIdParts children).map (partsText entered))) (scopes : List Scopes) :
    Identifies (scopes.flatMap treesOf) [] := by
  apply identifies_flatMap_nothing
  intro entered
  have given := filled entered
  rw [List.isEmpty_iff.mp noIds] at given
  exact given

mutual

/-- A template gives the ids that stand outside of its sections, whatever the values. -/
theorem identifies_fill :
    ∀ (template : Template) (scopes : Scopes), template.isReadable = true →
      Identifies (template.fill scopes) (template.idParts.map (partsText scopes))
  | .text part, scopes, readable => by
      rw [Template.fill]
      exact identifies_singleton _ (isPlain_fill part scopes readable)
  | .element tag attributes children, scopes, readable => by
      obtain ⟨opensSo, inside⟩ := Bool.and_eq_true_iff.mp readable
      obtain ⟨opens, notCode, given⟩ := opens_of_opensReadably opensSo scopes
      rw [Template.fill, Template.idParts, List.map_append, ← given]
      exact (identifies_fillInline children scopes inside).element opens notCode
  | .void tag attributes, scopes, readable => by
      obtain ⟨opens, notCode, given⟩ := opens_of_opensReadably readable scopes
      rw [Template.fill, Template.idParts, ← given]
      exact identifies_singleton _ ⟨opens, notCode⟩
  | .block tag attributes children, scopes, readable => by
      obtain ⟨opensSo, inside⟩ := Bool.and_eq_true_iff.mp readable
      obtain ⟨opens, notCode, given⟩ := opens_of_opensReadably opensSo scopes
      rw [Template.fill, Template.idParts, List.map_append, ← given]
      exact (identifies_fillLines children scopes inside).block opens notCode
  | .row children, scopes, readable => by
      rw [Template.fill]
      exact identifies_fillInline children scopes readable
  | .inline name children, scopes, readable => by
      obtain ⟨inside, noIds⟩ := Bool.and_eq_true_iff.mp readable
      rw [Template.fill]
      exact identifies_flatMap_of_isEmpty noIds
        (fun entered => identifies_fillInline children entered inside) _
  | .perItem name children, scopes, readable => by
      obtain ⟨inside, noIds⟩ := Bool.and_eq_true_iff.mp readable
      rw [Template.fill]
      exact identifies_flatMap_of_isEmpty noIds
        (fun entered => identifies_fillInline children entered inside) _

theorem identifies_fillInline :
    ∀ (templates : List Template) (scopes : Scopes), allAreReadable templates = true →
      Identifies (fillInline scopes templates)
        ((templatesIdParts templates).map (partsText scopes))
  | [], _, _ => identifies_nil
  | first :: others, scopes, readable => by
      obtain ⟨readableFirst, readableLater⟩ := Bool.and_eq_true_iff.mp readable
      rw [fillInline, templatesIdParts, List.map_append]
      exact (identifies_fill first scopes readableFirst).append
        (identifies_fillInline others scopes readableLater)

theorem identifies_fillLines :
    ∀ (templates : List Template) (scopes : Scopes), allAreReadable templates = true →
      Identifies (fillLines scopes templates)
        ((templatesIdParts templates).map (partsText scopes))
  | [], _, _ => identifies_nil
  | first :: others, scopes, readable => by
      have both := Bool.and_eq_true_iff.mp readable
      have rest := identifies_fillLines others scopes both.2
      cases first with
      -- Only here the lines are those of the items and not a row for the whole template.
      | perItem name children =>
          obtain ⟨inside, noIds⟩ := Bool.and_eq_true_iff.mp both.1
          have items := identifies_flatMap_of_isEmpty noIds
            (fun entered => identifies_fillLines children entered inside)
            (scopes.enter (scopes.lookup name))
          rw [fillLines]
          exact items.append rest
      | text | element | void | block | row | inline =>
          exact (identifies_fill _ scopes both.1).line rfl rest

end

end StaticSite.Markup
